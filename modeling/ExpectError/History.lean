import ExpectError.Fault
import ExpectError.Mutation

/-!
# The history of a run

A run keeps one list of what happened, in order. The events for a reporter, the questions that
were asked and the lines of the log are views of it.
-/

namespace ExpectError

/-- The result for one file. -/
structure FileOutcome where
  /-- The path as the report has it. -/
  name : String
  /-- The path that was read, and written. -/
  path : Path
  edits : List Edit
  skips : List Skip
  before : List String
  after : List String
  written : Bool
  deriving DecidableEq, Repr

def FileOutcome.changed (outcome : FileOutcome) : Bool :=
  !outcome.edits.isEmpty

/-- One thing that happened in a run. -/
inductive Entry where
  /-- So many of all diagnostics were drawn. -/
  | sampled (picked total : Nat)
  /-- A file with so many sites is next. -/
  | processing (path : Path) (sites : Nat)
  | read (path : Path) (fault : Option IoFault)
  /-- A site of a file was dealt with. -/
  | site (name : String) (preview : Bool) (record : SiteRecord)
  | wrote (path : Path) (fault : Option IoFault)
  | finished (outcome : FileOutcome)

/-! ## Events -/

inductive Operation where
  | read
  | write
  deriving DecidableEq, Repr

def Operation.text : Operation → String
  | .read => "Reading"
  | .write => "Writing"

/-- What a reporter is told. -/
inductive Event where
  | io (operation : Operation) (path : Path) (fault : Option IoFault)
  | edit (name : String) (edit : Edit) (preview : Bool)
  | skip (name : String) (skip : Skip)
  | file (outcome : FileOutcome)

/-- The event of an operation; a fault that reaches no file is none. -/
def Event.ofOperation (operation : Operation) (path : Path) (fault : Option IoFault) :
    Option Event :=
  if fault.all IoFault.reachesFile then some (.io operation path fault) else none

namespace Entry

/-- What a reporter is told of an entry. -/
def event? : Entry → Option Event
  | .sampled .. => none
  | .processing .. => none
  | .read path fault => Event.ofOperation .read path fault
  | .site name preview record =>
    match record.ending with
    | .edited edit => some (.edit name edit preview)
    | .skipped skip => some (.skip name skip)
    | .abandoned => none
  | .wrote path fault => Event.ofOperation .write path fault
  | .finished outcome => some (.file outcome)

def asked? : Entry → Option Asked
  | .site _ _ record => record.asked
  | _ => none

end Entry

/-! ## The log -/

structure LogRecord where
  level : Int
  text : String
  deriving DecidableEq, Repr

namespace LogRecord

def info (text : String) : LogRecord := ⟨20, text⟩

def warning (text : String) : LogRecord := ⟨30, text⟩

def error (text : String) : LogRecord := ⟨40, text⟩

end LogRecord

namespace Entry

/-- The line of the log for a failed operation. -/
def failure? (verb : String) (path : Path) (fault : Option IoFault) : Option LogRecord :=
  (fault.filter IoFault.reachesFile).map fun fault =>
    .error ("Error " ++ verb ++ " " ++ path.toText ++ ": " ++ fault.message)

def log? : Entry → Option LogRecord
  | .sampled picked total =>
    some (.info ("Sampled " ++ toString picked ++ " of " ++ toString total ++ " diagnostic(s)"))
  | .processing path sites =>
    some (.info ("Processing " ++ path.toText ++ " (" ++ toString sites ++ " site(s))"))
  | .read path fault => failure? "reading" path fault
  | .site name _ record =>
    match record.ending with
    | .skipped ⟨line, .outOfRange⟩ =>
      some (.warning (name ++ ":" ++ toString line ++ ": line out of range (file has "
        ++ toString record.size ++ " lines), skipping"))
    | _ => none
  | .wrote path fault => failure? "writing" path fault
  | .finished _ => none

end Entry

def eventsOf (entries : List Entry) : List Event :=
  entries.filterMap Entry.event?

def askedOf (entries : List Entry) : List Asked :=
  entries.filterMap Entry.asked?

def logOf (entries : List Entry) : List LogRecord :=
  entries.filterMap Entry.log?

end ExpectError
