import ExpectError.CommandLine.Program

/-!
# The executable

The files that a call may touch are read first. The call itself is a function of them, of the
environment and of the lines typed in so far; where a question is left without an answer, one more
line is read and the call is made again. What it changed is written at the end.
-/

namespace ExpectError.Executable

open CommandLine (Environment Outcome)

/-! ## Reading the disk -/

def nodeAt (location : Location) : IO (Option Node) := do
  match ← (IO.FS.readBinFile ("/" ++ "/".intercalate location)).toBaseIO with
  | .ok bytes => return some (.file bytes)
  | .error (.inappropriateType ..) => return some .directory
  | .error _ => return none

/-- Adds what stands at a location, unless it is known. -/
def addLocation (disk : Disk) (location : Location) : IO Disk := do
  if (disk.node? location).isSome then return disk
  match ← nodeAt location with
  | some node => return disk.put location node
  | none => return disk

/-- Adds a path and the directories on the way to it. -/
def addPath (disk : Disk) (path : Path) : IO Disk :=
  let location := (Config.absolute disk path).components
  (List.range location.length).foldlM (fun disk n => addLocation disk (location.take (n + 1))) disk

def addPaths (disk : Disk) (paths : List Path) : IO Disk :=
  paths.foldlM addPath disk

/-- The paths that a word may stand for: itself, a value behind an equals sign, or one behind a
letter. -/
def pathsOf (word : String) : List Path :=
  let (_, value) := CommandLine.cutValue word
  ([word, String.ofList (word.toList.drop 2)] ++ value.toList).map Path.ofText

/-- The files of settings that may count for a directory. -/
def settingsFiles (disk : Disk) (directory : Path) : List Path :=
  let start := Config.absolute disk directory
  (Config.ancestors start.anchor start.components).flatMap fun above =>
    [above.child Config.projectFile, above.child Config.ownFile]

/-- The files that a report names, from the working directory and from other ones. -/
def reportedFiles (disk : Disk) (directories : List Path) (report : Path) : List Path :=
  match disk.readText report with
  | .error _ => []
  | .ok text =>
    let names := (Diagnostic.ofReport (LineBuffer.ofText text).lines).map fun d =>
      Path.ofText d.path
    names ++ directories.flatMap fun directory => names.map directory.join

/-- The part of the disk that a call may touch. -/
def diskFor (cwd : Location) (words : List String) : IO Disk := do
  let named := words.flatMap pathsOf
  let here : Path := ⟨.root, cwd⟩
  let disk ← addPaths { cwd } (here :: named)
  let disk ← addPaths disk ((here :: named).flatMap (settingsFiles disk))
  addPaths disk (named.flatMap (reportedFiles disk named))

/-! ## The call -/

def save (before after : Disk) : IO Unit :=
  after.nodes.forM fun (location, node) =>
    match node with
    | .directory => pure ()
    | .file bytes =>
      if before.node? location = some node then pure ()
      else IO.FS.writeBinFile ("/" ++ "/".intercalate location) bytes

/-- A line as it was typed in, without its end. -/
def typedLine (line : String) : String :=
  (CommandLine.answersOf line).headD ""

/-- Makes the call, with a further line for every question left without an answer. `shown` is what
is on the screen already. -/
partial def converse (environment : Environment) (disk : Disk) (words : List String)
    (shown : String) : IO Outcome := do
  let outcome := CommandLine.call environment disk words
  let output ← IO.getStdout
  output.putStr (String.ofList (outcome.out.toList.drop shown.length))
  output.flush
  if outcome.unanswered then
    let line ← (← IO.getStdin).getLine
    if line.isEmpty then return outcome
    let answer := typedLine line
    converse { environment with answers := environment.answers ++ [answer] } disk words
      (outcome.out ++ answer ++ "\n")
  else return outcome

def environment : IO Environment := do
  return {
    logLevel := ← IO.getEnv "TSMARK_LOG_LEVEL"
    colors := ⟨← IO.getEnv "FORCE_COLOR", ← IO.getEnv "NO_COLOR"⟩
    terminal := ← (← IO.getStdout).isTty
    generator := .ofSeed (← IO.monoNanosNow) }

end ExpectError.Executable

open ExpectError.Executable in
def main (words : List String) : IO UInt32 := do
  let cwd := (ExpectError.Path.ofText (← IO.currentDir).toString).components
  let disk ← diskFor cwd words
  let outcome ← converse (← environment) disk words ""
  save disk outcome.disk
  IO.eprint outcome.err
  match outcome.crash with
  | some crash => IO.eprintln crash.message
  | none => pure ()
  return outcome.exitCode.toUInt32
