import ExpectError.CommandLine.Value
import ExpectError.Console
import ExpectError.Failure

/-!
# The command that inserts directives

Its options become settings on top of those of the files. Numbers below zero are turned down before
any file is looked at, so a run only ever sees settings that make sense.
-/

namespace ExpectError.CommandLine

inductive ApplyKey where
  | dry
  | todo
  | verbose
  | context
  | sample
  | seed
  | ambiguous
  | diff
  | root
  | config
  | noConfig
  | help
  deriving DecidableEq, Repr

def policyChoice : Choice :=
  ⟨"AmbiguousPolicy", AmbiguousPolicy.all.map AmbiguousPolicy.name⟩

def applyCommand : Command ApplyKey where
  name := "tsmark apply"
  operands := "[OPTIONS] REPORT"
  about := "Insert @ts-expect-error directives for every error in a tsc REPORT."
  help := .help
  options :=
    [{ key := .dry, long := "--dry", about := "Preview the insertions; write nothing." },
      { key := .todo, long := "--todo", value := some "TEXT"
        about := "Prefix word of the inserted note (default: TODO)." },
      { key := .verbose, long := "--verbose"
        about := "Show every read/write, insertion and skipped site." },
      { key := .context, long := "--context", value := some "INTEGER"
        about := "Lines before/after the error inspected for JSX markup (default: 5)." },
      { key := .sample, long := "--sample", value := some "INTEGER"
        about := "Only process a random subset of this many diagnostics." },
      { key := .seed, long := "--seed", value := some "INTEGER"
        about := "Seed for --sample (reproducible subsets)." },
      { key := .ambiguous, long := "--ambiguous", value := some "AMBIGUOUSPOLICY"
        about := "Comment syntax for sites that may be inside JSX markup: "
          ++ ", ".intercalate policyChoice.names ++ " (default: ask)." },
      { key := .diff, long := "--diff", about := "Show a unified diff." },
      { key := .root, long := "--root", value := some "DIRECTORY"
        about := "Directory against which relative report paths are resolved (default: CWD)." },
      { key := .config, long := "--config", short := some 'c', value := some "FILE"
        about := "Additional config file(s) to load and merge." },
      { key := .noConfig, long := "--no-config"
        about := "Ignore discovered pyproject.toml / tsmark.toml files (only use defaults)." },
      { key := .help, long := "--help", short := some 'h'
        about := "Show this message and exit." }]

structure ApplyOptions where
  dry : Bool := false
  todo : Option String := none
  verbose : Bool := false
  context : Option Int := none
  sample : Option Int := none
  seed : Option Int := none
  ambiguous : Option AmbiguousPolicy := none
  diff : Bool := false
  root : Option Path := none
  configs : List Path := []
  noConfig : Bool := false
  deriving DecidableEq, Repr

namespace ApplyOptions

def policy (names : List String) (value : String) : Checked AmbiguousPolicy :=
  match (policyChoice.find? value).bind fun i => AmbiguousPolicy.all[i]? with
  | some policy => .ok policy
  | none => reject names (.noChoice policyChoice value)

/-- Takes an option into account. Of several values the last one counts, but all the files of
settings do. -/
def set (disk : Disk) (options : ApplyOptions) (key : ApplyKey) (values : List String) :
    Checked ApplyOptions := do
  let last := values.getLast?
  match key with
  | .dry => return { options with dry := true }
  | .todo => return { options with todo := last }
  | .verbose => return { options with verbose := true }
  | .context => return { options with context := ← last.mapM (integer ["--context"]) }
  | .sample => return { options with sample := ← last.mapM (integer ["--sample"]) }
  | .seed => return { options with seed := ← last.mapM (integer ["--seed"]) }
  | .ambiguous => return { options with ambiguous := ← last.mapM (policy ["--ambiguous"]) }
  | .diff => return { options with diff := true }
  | .root => return { options with root := ← last.mapM (presentDirectory disk ["--root"]) }
  | .config =>
    return { options with configs := ← values.mapM (presentFile disk ["--config", "-c"]) }
  | .noConfig => return { options with noConfig := true }
  | .help => return options

def ofWords (disk : Disk) (words : List String) : Checked (ApplyOptions × Path) := do
  let (options, arguments) ← applyCommand.parse (set disk) {} words
  match arguments with
  | [] => .error (.usage (.missingArgument "REPORT"))
  | report :: more =>
    let report ← anyFile disk ["REPORT"] report
    noMore more
    return (options, report)

/-! ## Settings -/

/-- A number that has to be there or above zero, with the name of its option. -/
def negative? (name : String) (value : Option Int) : Option Failure :=
  match value with
  | some n =>
    if n < 0 then some ⟨.usage, name ++ " must not be negative (got " ++ toString n ++ ")"⟩
    else none
  | none => none

/-- Why the options cannot be used, if they cannot. -/
def objection? (options : ApplyOptions) : Option Failure :=
  negative? "--context" options.context <|> negative? "--sample" options.sample

def overrides (options : ApplyOptions) : Draft.Overrides where
  todo := options.todo
  context := options.context
  sample := options.sample
  seed := options.seed
  ambiguous := options.ambiguous
  dry := some options.dry
  verbose := some options.verbose
  diff := some options.diff
  base := options.root

/-- The settings of the run: those of the files, and the options on top. -/
def settings (options : ApplyOptions) (reader : Toml.DocumentReader) (disk : Disk) :
    Loading Config := do
  let start := options.root.getD ⟨.root, disk.cwd⟩
  let draft ← Config.load reader disk start options.configs options.noConfig
  return (draft.override options.overrides).freeze

end ApplyOptions

/-- The decision source of a policy: a fixed style, or what is typed in. -/
def deciderOf (policy : AmbiguousPolicy) : Decider (List String) :=
  match policy.style? with
  | some style => .fixed style
  | none => .typed

end ExpectError.CommandLine
