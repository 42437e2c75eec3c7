import ExpectError.CommandLine.Similar
import ExpectError.CommandLine.Usage

/-!
# Commands and their options

A command is described by its options. Its words are read from left to right: an option that takes
a value takes the rest of its word or the next word, whatever that is, and `--` ends the options.
All other words are arguments. Where arguments end the options, what follows the first of them is
left alone.
-/

namespace ExpectError.CommandLine

/-- An option of a command; `κ` names the options. -/
structure OptionSpec (κ : Type) where
  key : κ
  /-- The name that starts with two dashes. -/
  long : String
  /-- The letter that it has behind a single dash. -/
  short : Option Char := none
  /-- What stands for the value, if it takes one. -/
  value : Option String := none
  about : String

structure Command (κ : Type) where
  /-- The words that call it. -/
  name : String
  /-- What may follow them. -/
  operands : String
  about : String
  options : List (OptionSpec κ)
  /-- The option that asks for help. -/
  help : κ
  /-- Whether options may follow arguments. -/
  interspersed : Bool := true

/-- An option on the command line, with its value if it takes one. -/
structure Given (κ : Type) where
  key : κ
  value : Option String := none
  deriving DecidableEq, Repr

/-- The words of a command line, sorted. -/
structure Reading (κ : Type) where
  given : List (Given κ) := []
  arguments : List String := []
  deriving DecidableEq, Repr

def Reading.prepend {κ : Type} (given : List (Given κ)) (reading : Reading κ) : Reading κ :=
  { reading with given := given ++ reading.given }

/-- A reading with an argument in front. -/
def Reading.argument {κ : Type} (word : String) (reading : Reading κ) : Reading κ :=
  { reading with arguments := word :: reading.arguments }

/-- The options of one word. The last of them may still want the next word, and is named as the
user named it. -/
structure Opening (κ : Type) where
  given : List (Given κ) := []
  pending : Option (κ × String) := none

def letterName (letter : Char) : String :=
  String.ofList ['-', letter]

def isOptionWord (word : String) : Bool :=
  match word.toList with
  | '-' :: _ :: _ => true
  | _ => false

/-- Cuts a word at its first equals sign. -/
def cutValue (word : String) : String × Option String :=
  let cs := word.toList
  let name := cs.takeWhile (· ≠ '=')
  match cs.dropWhile (· ≠ '=') with
  | [] => (word, none)
  | _ :: value => (String.ofList name, some (String.ofList value))

namespace Command

variable {κ : Type}

def long? (command : Command κ) (name : String) : Option (OptionSpec κ) :=
  command.options.find? fun o => o.long = name

def short? (command : Command κ) (letter : Char) : Option (OptionSpec κ) :=
  command.options.find? fun o => o.short = some letter

def openLong (o : OptionSpec κ) (name : String) (value : Option String) :
    Except UsageError (Opening κ) :=
  match o.value, value with
  | some _, some value => .ok { given := [⟨o.key, some value⟩] }
  | some _, none => .ok { pending := some (o.key, name) }
  | none, some _ => .error (.takesNoValue name)
  | none, none => .ok { given := [⟨o.key, none⟩] }

/-- Reads options by their letters; what follows a letter that takes a value is the value. -/
def openLetters (command : Command κ) : List Char → Except UsageError (Opening κ)
  | [] => .ok {}
  | letter :: letters =>
    match command.short? letter with
    | none => .error (.noSuchOption (letterName letter) [])
    | some o =>
      match o.value, letters with
      | some _, [] => .ok { pending := some (o.key, letterName letter) }
      | some _, value => .ok { given := [⟨o.key, some (String.ofList value)⟩] }
      | none, letters =>
        (command.openLetters letters).map fun opening =>
          { opening with given := ⟨o.key, none⟩ :: opening.given }

/-- Reads the options of one word: one by its long name or, behind a single dash, some by their
letters. -/
def openWord (command : Command κ) (word : String) : Except UsageError (Opening κ) :=
  let (name, value) := cutValue word
  match command.long? name, word.toList with
  | some o, _ => openLong o name value
  | none, '-' :: '-' :: _ =>
    .error (.noSuchOption name (similarNames name (command.options.map OptionSpec.long)))
  | none, cs => command.openLetters cs.tail

def read (command : Command κ) : List String → Except UsageError (Reading κ)
  | [] => .ok {}
  | word :: words =>
    if word = "--" then .ok { arguments := words }
    else if isOptionWord word then
      match command.openWord word with
      | .error error => .error error
      | .ok ⟨given, none⟩ => (command.read words).map (Reading.prepend given)
      | .ok ⟨given, some (key, name)⟩ =>
        match words with
        | [] => .error (.needsValue name)
        | value :: words =>
          (command.read words).map (Reading.prepend (given ++ [⟨key, some value⟩]))
    else if command.interspersed then (command.read words).map (Reading.argument word)
    else .ok { arguments := word :: words }

end Command

namespace Reading

variable {κ : Type} [DecidableEq κ]

def has (reading : Reading κ) (key : κ) : Bool :=
  reading.given.any fun g => g.key = key

def values (reading : Reading κ) (key : κ) : List String :=
  (reading.given.filter fun g => g.key = key).filterMap Given.value

/-- The options that were given, each once, in the order in which they first came. -/
def keys (reading : Reading κ) : List κ :=
  (reading.given.map Given.key).eraseDups

end Reading

end ExpectError.CommandLine
