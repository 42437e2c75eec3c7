import ExpectError.Diagnostic

/-!
# Edit plans

The diagnostics of a report, grouped by file and then by line. Files keep the order in which they
are first seen and messages the order in which they are reported; the sites of a file descend, so
that an insertion never moves a site that is still to come.
-/

namespace ExpectError

/-- A line of a file with the messages that are reported on it. -/
structure Site where
  line : Int
  messages : List String
  deriving DecidableEq, Repr

/-- The sites of one file. -/
structure EditPlan where
  path : String
  sites : List Site
  deriving DecidableEq, Repr

namespace EditPlan

/-- Adds a message at a line, keeping the lines in descending order. -/
def addMessage (line : Int) (message : String) : List Site → List Site
  | [] => [⟨line, [message]⟩]
  | site :: sites =>
    if site.line = line then ⟨line, site.messages ++ [message]⟩ :: sites
    else if site.line < line then ⟨line, [message]⟩ :: site :: sites
    else site :: addMessage line message sites

/-- Adds a diagnostic to the plan of its file, or opens one at the end. -/
def addDiagnostic (d : Diagnostic) : List EditPlan → List EditPlan
  | [] => [⟨d.path, [⟨d.line, [d.message]⟩]⟩]
  | plan :: plans =>
    if plan.path = d.path then ⟨plan.path, addMessage d.line d.message plan.sites⟩ :: plans
    else plan :: addDiagnostic d plans

/-- The plans for a list of diagnostics, one for each file. -/
def ofDiagnostics (diagnostics : List Diagnostic) : List EditPlan :=
  diagnostics.foldl (fun plans d => addDiagnostic d plans) []

def messageCount (plan : EditPlan) : Nat :=
  (plan.sites.flatMap Site.messages).length

end EditPlan

end ExpectError
