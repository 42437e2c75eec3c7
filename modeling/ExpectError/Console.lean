import ExpectError.Diff.Patch
import ExpectError.Diff.Unified
import ExpectError.Run
import ExpectError.Style.Emphasis
import ExpectError.Text.Case
import ExpectError.Text.Blank

/-!
# The console

What the program writes for its user: the events of a run, the questions, and a summary. Without
colors, control sequences are taken out of everything that is printed.
-/

namespace ExpectError

open Style (tinted)

/-- The paint of a reason, where colors are used. -/
def SkipReason.paint : SkipReason → Style.Paint
  | .alreadySuppressed => Style.Paint.yellow
  | .outOfRange => Style.Paint.brightRed
  | .declined => Style.Paint.blue

def Operation.paint : Operation → Style.Paint
  | .read => Style.Paint.cyan
  | .write => Style.Paint.magenta

structure Console where
  colors : Bool

namespace Console

def shown (console : Console) (text : String) : String :=
  if console.colors then text else Style.strip text

def line (console : Console) (text : String) : String :=
  console.shown text ++ "\n"

def lines (console : Console) (texts : List String) : String :=
  String.join (texts.map console.line)

def tint (console : Console) (n : Nat) (text : String) : String :=
  if console.colors then tinted n text else text

def emphasize (console : Console) (e : Style.Emphasis) (text : String) :
    Except Style.UnknownColor String :=
  if console.colors then e.apply text else .ok text

def warning (console : Console) (text : String) : String :=
  console.shown (tinted 33 text)

def error (console : Console) (text : String) : String :=
  console.shown (tinted 91 text)

/-! ## Events -/

/-- The lines of an insertion, with the numbers that they have now. -/
def editLines (console : Console) (edit : Edit) : List String :=
  (List.range edit.block.length).zipWith
      (fun (i : Nat) text => " " ++ toString (edit.line + i) ++ ": " ++ console.tint 32 text)
      edit.block
    ++ [" " ++ toString edit.shiftedLine ++ ": " ++ console.tint 33 edit.target]

/-- A reason, painted if colors are used. -/
def reason (console : Console) (reason : SkipReason) : String :=
  reason.paint.apply console.colors reason.text

def changes (console : Console) (outcome : FileOutcome) : String :=
  let patch := Diff.unified outcome.before outcome.after outcome.name 3
  if console.colors then console.shown (Diff.renderPatch true false patch)
  else console.lines patch

/-- What is printed for an event. Faults are always told; success, insertions and sites passed over
only to a `verbose` reader, but insertions also when they are a preview; and the changes of a file
where a `diff` is wanted. -/
def event (console : Console) (verbose diff : Bool) : Event → String
  | .io operation path fault =>
    let head := "[INFO] " ++ operation.text ++ " " ++ path.toText ++ "..."
    match fault with
    | some fault => console.line (head ++ console.tint 31 "FAILED!" ++ " " ++ fault.message)
    | none => if verbose then console.line (head ++ console.tint 32 "OK") else ""
  | .edit name edit preview =>
    if preview || verbose then
      console.lines (console.tint 35 name :: console.editLines edit ++ [""])
    else ""
  | .skip name skip =>
    if verbose then
      console.line (" " ++ name ++ ":" ++ toString skip.line ++ ": skipped ("
        ++ console.reason skip.reason ++ ")")
    else ""
  | .file outcome => if diff && outcome.changed then console.changes outcome else ""

/-- What is printed for the events of a run. -/
def events (console : Console) (verbose diff : Bool) (entries : List Entry) : String :=
  String.join ((eventsOf entries).map (console.event verbose diff))

/-! ## Questions -/

/-- The lines around a site, the target in color. -/
def contextLines (console : Console) (focus : Int) : Nat → List String → List String
  | _, [] => []
  | i, text :: texts =>
    (" > " ++ (if (i : Int) = focus then console.tint 33 text else text))
      :: console.contextLines focus (i + 1) texts

/-- What is shown of a site before the question. -/
def site (console : Console) (q : Question) : String :=
  console.lines
    ([console.tint 35 "File:" ++ " " ++ q.path,
      console.tint 36 "Status:" ++ " " ++ toString q.filesRemaining ++ " files remaining",
      "",
      console.tint 31 "Errors:"]
    ++ q.messages.map (" - " ++ ·)
    ++ ["", console.tint 33 "Context:"]
    ++ console.contextLines q.focus 0 q.context
    ++ [""])

def prompt (console : Console) : String :=
  console.shown (console.tint 34 "Format:" ++ " type anything for JSX...") ++ " "

/-- What is printed for a question and the answer to it, which is shown again. Without an answer
the output ends behind the question. -/
def asked (console : Console) (q : Question) : Option String → String
  | none => console.site q ++ console.prompt
  | some answer => console.site q ++ console.prompt ++ answer ++ "\n" ++ console.line ""

/-- What is printed in a run whose questions were put to the user, with the answers typed in. -/
def transcript (console : Console) (verbose diff : Bool) :
    List Entry → List String → String
  | [], _ => ""
  | entry :: entries, answers =>
    let printed := (entry.event?.map (console.event verbose diff)).getD ""
    match entry.asked? with
    | none => printed ++ console.transcript verbose diff entries answers
    | some asked =>
      console.asked asked.question (if asked.answer.isSome then answers.head? else none)
        ++ printed ++ console.transcript verbose diff entries answers.tail

def summary (console : Console) (dry : Bool) (result : RunResult) : String :=
  let bold (text : String) : String := if console.colors then tinted 1 text else text
  let head := if dry then bold "Dry run:" ++ " would insert " else bold "Done:" ++ " inserted "
  console.line (head ++ toString result.inserted ++ " directive(s) in " ++ toString result.changed
    ++ " file(s), " ++ toString result.skipped ++ " site(s) skipped.")

end Console

/-! ## Answers -/

/-- The style that an answer stands for: none for a plain comment, `skip` for no comment, anything
else for a comment inside markup. -/
def CommentStyle.ofAnswer (answer : String) : CommentStyle :=
  let word := Text.lower (Text.trim answer)
  if word = "" then .plain else if word = "skip" then .skip else .embedded

/-- The decision source that takes the answers from lines that are typed in. It gives up when they
are used up. -/
def Decider.typed : Decider (List String) :=
  fun _ answers =>
    match answers with
    | [] => (none, [])
    | answer :: answers => (some (.ofAnswer answer), answers)

end ExpectError
