import ExpectError.CommandLine.Command
import ExpectError.Config.Load
import ExpectError.Random.Sample

/-!
# Values of options and arguments

Reading the values that stand on a command line. Options are dealt with in the order in which they
first came, so that of several bad values the first one is told. To ask for help wins over all bad
values.
-/

namespace ExpectError.CommandLine

/-- A fault that the program does not put into words of its own. -/
inductive Crash where
  /-- The level of the log is no number. -/
  | level (error : Text.IntegerError)
  /-- The settings cannot be loaded. -/
  | load (fault : LoadFault)
  /-- A path cannot even be looked up. -/
  | io (fault : IoFault)
  /-- What is wrong with a sample cannot be told. -/
  | sample (error : Random.SampleError)

def Crash.message : Crash → String
  | .level error => error.message
  | .load fault => fault.message
  | .io fault => fault.message
  | .sample error => error.message

inductive Stop where
  /-- Help was asked for. -/
  | help
  | usage (error : UsageError)
  | crash (crash : Crash)

/-- A value of the option with these names, or the end. -/
abbrev Checked := Except Stop

def reject {α : Type} (names : List String) (fault : BadValue) : Checked α :=
  .error (.usage (.badValue names fault))

def integer (names : List String) (value : String) : Checked Int :=
  match Text.readInteger value with
  | .ok n => .ok n
  | .error _ => reject names (.notInteger value)

def lookUp (disk : Disk) (value : String) : Checked (Option Node) :=
  if value.toList.contains (Char.ofNat 0) then .error (.crash (.io .nulInPath))
  else .ok (disk.statText value).toOption

def presentFile (disk : Disk) (names : List String) (value : String) : Checked Path := do
  match ← lookUp disk value with
  | none => reject names (.absent .file value)
  | some .directory => reject names (.mismatch .file value)
  | some (.file _) => return Path.ofText value

def presentDirectory (disk : Disk) (names : List String) (value : String) : Checked Path := do
  match ← lookUp disk value with
  | none => reject names (.absent .directory value)
  | some (.file _) => reject names (.mismatch .directory value)
  | some .directory => return Path.ofText value

def anyFile (disk : Disk) (names : List String) (value : String) : Checked Path := do
  match ← lookUp disk value with
  | some .directory => reject names (.mismatch .file value)
  | _ => return Path.ofText value

def noMore (arguments : List String) : Checked Unit :=
  if arguments.isEmpty then .ok () else .error (.usage (.extraArguments arguments))

namespace Command

variable {κ α : Type} [DecidableEq κ]

/-- Reads the words of a command. `set` takes the values of an option into account. The arguments
are left. -/
def parse (command : Command κ) (set : α → κ → List String → Checked α) (start : α)
    (words : List String) : Checked (α × List String) :=
  match command.read words with
  | .error error => .error (.usage error)
  | .ok reading =>
    if reading.has command.help then .error .help
    else do
      let options ← reading.keys.foldlM (fun options key => set options key (reading.values key))
        start
      return (options, reading.arguments)

end Command

end ExpectError.CommandLine
