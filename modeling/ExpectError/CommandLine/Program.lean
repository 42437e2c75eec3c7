import ExpectError.ColorMode
import ExpectError.CommandLine.Apply
import ExpectError.CommandLine.Help
import ExpectError.Log
import ExpectError.Toml.Document

/-!
# The program

One call of the program, from the words of its command line to what it prints and leaves on the
disk. The options of the program itself come first, then the name of a command, then the words of
that command. The command is looked up before colors and log are set up, and its words are read
after that.
-/

namespace ExpectError.CommandLine

def version : String := "0.1.0"

/-! ## The commands -/

inductive ProgramKey where
  | noColor
  | color
  | help
  deriving DecidableEq, Repr

/-- The program, seen as a command. -/
def program : Command ProgramKey where
  name := "tsmark"
  operands := "[OPTIONS] [COMMAND] [ARGS]..."
  about := "TsMark: silence tsc errors with traceable @ts-expect-error directives."
  help := .help
  interspersed := false
  options :=
    [{ key := .noColor, long := "--no-color"
       about := "Disable color output (equivalent to --color=never)." },
      { key := .color, long := "--color"
        value := some ("[" ++ "|".intercalate (ColorMode.all.map ColorMode.name) ++ "]")
        about := "Color output: auto (default), always, or never." },
      { key := .help, long := "--help", short := some 'h'
        about := "Show this message and exit." }]

/-- The command that tells the version; its one option asks for help. -/
def versionCommand : Command Unit where
  name := "tsmark version"
  operands := "[OPTIONS]"
  about := "Show the current version of TsMark."
  help := ()
  options :=
    [{ key := (), long := "--help", short := some 'h', about := "Show this message and exit." }]

inductive CommandName where
  | apply
  | version
  deriving DecidableEq, Repr

namespace CommandName

def all : List CommandName :=
  [.apply, .version]

def text : CommandName → String
  | .apply => "apply"
  | .version => "version"

def about : CommandName → String
  | .apply => applyCommand.about
  | .version => versionCommand.about

def ofText? (name : String) : Option CommandName :=
  all.find? fun command => command.text = name

end CommandName

def programHelp : String :=
  program.helpPage (CommandName.all.map fun command => (command.text, command.about))

/-! ## Options of the program -/

/-- Takes an option of the program into account. That no colors are wanted wins. -/
def setProgram (options : Option ColorMode × Bool) (key : ProgramKey) (values : List String) :
    Checked (Option ColorMode × Bool) :=
  match key with
  | .noColor => .ok (options.1, true)
  | .color =>
    match values.getLast? with
    | none => .ok options
    | some value =>
      match ColorMode.ofName? value with
      | some mode => .ok (some mode, options.2)
      | none => reject ["--color"] (.notListed value (ColorMode.all.map ColorMode.name))
  | .help => .ok options

/-- The color mode that is wanted, and the words that follow. -/
def parseProgram (words : List String) : Checked (ColorMode × List String) := do
  let ((mode, noColor), rest) ← program.parse setProgram (none, false) words
  return (if noColor then .never else mode.getD .auto, rest)

/-- The command that a word names. A word that names none may still be an option, and is first
read as one. -/
def findCommand (word : String) (rest : List String) : Checked CommandName :=
  match CommandName.ofText? word with
  | some command => .ok command
  | none => do
    let _ ← parseProgram (word :: rest)
    .error (.usage (.noSuchCommand word
      (similarNames word (CommandName.all.map CommandName.text))))

/-! ## A call -/

/-- What a call of the program can see, the disk apart. -/
structure Environment where
  logLevel : Option String := none
  colors : ColorMode.Environment := {}
  /-- Whether the output goes to a terminal. -/
  terminal : Bool := false
  /-- The lines that are typed in. -/
  answers : List String := []
  /-- The generator of samples without a seed. -/
  generator : Random.Twister
  reader : Toml.DocumentReader := Toml.Document.read []

/-- What a call of the program leaves behind. -/
structure Outcome where
  exitCode : Nat := 0
  out : String := ""
  err : String := ""
  disk : Disk
  crash : Option Crash := none
  /-- Whether a question was left without an answer. -/
  unanswered : Bool := false

/-- The end of a command that is not carried out. -/
def Outcome.ofStop {κ : Type} (disk : Disk) (console : Console) (command : Command κ)
    (help : String) : Stop → Outcome
  | .help => { out := help, disk }
  | .usage error =>
    let shown := if error.standsAlone then Style.strip else console.shown
    { exitCode := 2, err := shown (command.complaint error), disk }
  | .crash crash => { exitCode := 1, disk, crash := some crash }

def failureLine (console : Console) (failure : Failure) : String :=
  console.line ("Error: " ++ failure.message)

/-- What is printed in a run. Questions are shown only where they were put to the user. -/
def printed (console : Console) (config : Config) (answers : List String) (entries : List Entry) :
    String :=
  match config.ambiguous.style? with
  | some _ => console.events config.verbose config.diff entries
  | none => console.transcript config.verbose config.diff entries answers

/-- How a run ended. -/
def endRun (console : Console) (config : Config) (answers : List String)
    (log : List LogRecord → String) (run : Run (List String) RunResult) : Outcome :=
  let out := printed console config answers run.entries
  let err := log (logOf run.entries)
  let failed (failure : Failure) : Outcome :=
    { exitCode := failure.kind.exitCode, out, err := err ++ failureLine console failure,
      disk := run.disk }
  match run.result with
  | .ok result => { out := out ++ console.summary config.dry result, err, disk := run.disk }
  | .error (.sample .unwritable) =>
    { exitCode := 1, out, err, disk := run.disk, crash := some (.sample .unwritable) }
  | .error (.sample error) => failed ⟨.usage, error.message⟩
  | .error .abandoned =>
    { exitCode := 1, out, err := err ++ "Aborted!\n", disk := run.disk, unanswered := true }
  | .error (.io .nulInPath) =>
    { exitCode := 1, out, err, disk := run.disk, crash := some (.io .nulInPath) }
  | .error (.io fault) => failed (.ofFault fault)

def runApply (environment : Environment) (console : Console) (log : List LogRecord → String)
    (disk : Disk) (options : ApplyOptions) (report : Path) : Outcome :=
  match options.objection? with
  | some failure =>
    { exitCode := failure.kind.exitCode, err := failureLine console failure, disk }
  | none =>
    let loading := options.settings environment.reader disk
    match loading.result with
    | .error fault => { exitCode := 1, err := log loading.log, disk, crash := some (.load fault) }
    | .ok config =>
      let run := runReport config (deciderOf config.ambiguous)
        (config.drawsFrom none environment.generator) report disk environment.answers
      let outcome := endRun console config environment.answers log run
      { outcome with err := log loading.log ++ outcome.err }

/-- Carries out a command with its words. -/
def runCommand (environment : Environment) (console : Console) (log : List LogRecord → String)
    (disk : Disk) (words : List String) : CommandName → Outcome
  | .apply =>
    match ApplyOptions.ofWords disk words with
    | .error stop => .ofStop disk console applyCommand (applyCommand.helpPage []) stop
    | .ok (options, report) => runApply environment console log disk options report
  | .version =>
    match versionCommand.parse (fun _ _ _ => .ok ()) () words with
    | .error stop => .ofStop disk console versionCommand (versionCommand.helpPage []) stop
    | .ok (_, arguments) =>
      match noMore arguments with
      | .error stop => .ofStop disk console versionCommand (versionCommand.helpPage []) stop
      | .ok () =>
        { out := console.line (if console.colors then Style.tinted 1 version else version), disk }

def hint : String :=
  "Hint: use 'tsmark apply REPORT' to suppress the errors listed in REPORT.\n\n" ++ programHelp

/-- The command that the words name, if they name one, with the words for it. -/
def chooseCommand : List String → Checked (Option (CommandName × List String))
  | [] => .ok none
  | word :: words => do
    let command ← findCommand word words
    return some (command, words)

/-- One call of the program. -/
def call (environment : Environment) (disk : Disk) (words : List String) : Outcome :=
  let stopped : Stop → Outcome := .ofStop disk ⟨false⟩ program programHelp
  match parseProgram words with
  | .error stop => stopped stop
  | .ok (mode, rest) =>
    match chooseCommand rest with
    | .error stop => stopped stop
    | .ok chosen =>
      match Log.levelOf environment.logLevel with
      | .error error => stopped (.crash (.level error))
      | .ok level =>
        let console : Console := ⟨mode.resolve environment.colors environment.terminal⟩
        let log := Log.render true (Log.threshold level level) ""
        match chosen with
        | none => { out := hint, disk }
        | some (command, words) => runCommand environment console log disk words command

/-- The lines of what is typed in. Line ends of all three common kinds count, and a last line need
not be ended. -/
def answersOf (input : String) : List String :=
  let pieces := (Text.splitLf (Text.unifyNewlines input.toList)).map String.ofList
  if pieces.getLast? = some "" then pieces.dropLast else pieces

end ExpectError.CommandLine
