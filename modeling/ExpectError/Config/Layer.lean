import ExpectError.Config.Basic
import ExpectError.History
import ExpectError.Text.Case
import ExpectError.Text.Blank
import ExpectError.Toml.Value

/-!
# Settings from a table

A table of a configuration file sets what it can. A value of the wrong kind, or one that makes no
sense, is as good as absent, but for one warning.
-/

namespace ExpectError.Config

open Toml (Value Table)

/-- The names of the settings in a table. -/
inductive Key where
  | todo
  | directive
  | context
  | markupExtensions
  | ambiguous
  | sample
  | seed
  deriving DecidableEq, Repr

def Key.text : Key → String
  | .todo => "todo"
  | .directive => "directive"
  | .context => "context"
  | .markupExtensions => "markup_extensions"
  | .ambiguous => "ambiguous"
  | .sample => "sample"
  | .seed => "seed"

/-- What a table says about a setting: a value, nothing, or something that only gives a warning. -/
inductive Setting (α : Type) where
  | unset
  | set (value : α)
  | refused (warning : String)
  deriving DecidableEq, Repr

namespace Setting

variable {α : Type}

def value? : Setting α → Option α
  | .set value => some value
  | _ => none

def warning? : Setting α → Option LogRecord
  | .refused warning => some (.warning warning)
  | _ => none

end Setting

/-- The warning about a value of the wrong kind. -/
def mistyped (wanted place : String) (value : Value) : String :=
  "Expected " ++ wanted ++ " in " ++ place ++ ", got " ++ value.kind ++ ": " ++ value.display

def textSetting (place : String) : Option Value → Setting String
  | none => .unset
  | some .nothing => .unset
  | some (.text s) => .set s
  | some value => .refused (mistyped "str" place value)

/-- A setting that is an integer. A truth value is none. -/
def intSetting (place : String) : Option Value → Setting Int
  | none => .unset
  | some .nothing => .unset
  | some (.integer n) => .set n
  | some value => .refused (mistyped "int" place value)

/-- A setting that is a natural number. -/
def sizeSetting (place : String) (value : Option Value) : Setting Int :=
  match intSetting place value with
  | .set n =>
    if n < 0 then .refused ("Ignoring negative " ++ place ++ ": " ++ toString n) else .set n
  | other => other

/-- The texts of a list, or the first item that is none. -/
def textItems : List Value → Except Value (List String)
  | [] => .ok []
  | .text s :: items => (textItems items).map (s :: ·)
  | item :: _ => .error item

/-- A setting that is a list of texts, all or nothing. -/
def textListSetting (place : String) : Option Value → Setting (List String)
  | none => .unset
  | some .nothing => .unset
  | some (.array items) =>
    match textItems items with
    | .ok texts => .set texts
    | .error item =>
      .refused ("Expected list[str] in " ++ place ++ ", got item " ++ item.display)
  | some value => .refused (mistyped "list" place value)

/-- A setting that names a policy, in any case and with blanks around it. -/
def policySetting (place : String) (value : Option Value) : Setting AmbiguousPolicy :=
  match textSetting place value with
  | .unset => .unset
  | .refused warning => .refused warning
  | .set text =>
    match AmbiguousPolicy.ofName? (Text.lower (Text.trim text)) with
    | some policy => .set policy
    | none =>
      .refused ("Invalid " ++ place ++ ": " ++ Text.quoted text ++ " (expected one of: "
        ++ ", ".intercalate (AmbiguousPolicy.all.map AmbiguousPolicy.name) ++ ")")

/-- What a table says about each setting. -/
structure Settings where
  todo : Setting String
  directive : Setting String
  context : Setting Int
  markupExtensions : Setting (List String)
  ambiguous : Setting AmbiguousPolicy
  sample : Setting Int
  seed : Setting Int

def Key.place (key : Key) (origin : String) : String :=
  origin ++ "." ++ key.text

/-- Reads the settings of a table that comes from the given place. -/
def Settings.ofTable (origin : String) (table : Table) : Settings :=
  let look {α : Type} (key : Key) (read : String → Option Value → Setting α) : Setting α :=
    read (key.place origin) (table.get? key.text)
  { todo := look .todo textSetting
    directive := look .directive textSetting
    context := look .context sizeSetting
    markupExtensions := look .markupExtensions textListSetting
    ambiguous := look .ambiguous policySetting
    sample := look .sample sizeSetting
    seed := look .seed intSetting }

/-- The warnings, in the order of the settings. -/
def Settings.warnings (settings : Settings) : List LogRecord :=
  [settings.todo.warning?, settings.directive.warning?, settings.context.warning?,
    settings.markupExtensions.warning?, settings.ambiguous.warning?, settings.sample.warning?,
    settings.seed.warning?].filterMap id

def Settings.draft (settings : Settings) : Draft :=
  { todo := settings.todo.value?
    directive := settings.directive.value?
    context := settings.context.value?
    markupExtensions := settings.markupExtensions.value?
    ambiguous := settings.ambiguous.value?
    sample := settings.sample.value?
    seed := settings.seed.value? }

end ExpectError.Config

namespace ExpectError.Draft

/-- The draft that a table makes, with its warnings. -/
def ofTable (origin : String) (table : Toml.Table) : Draft × List LogRecord :=
  let settings := Config.Settings.ofTable origin table
  (settings.draft, settings.warnings)

/-- The draft with the built-in settings. -/
def defaults : Draft :=
  { sources := ["<defaults>"]
    todo := some Config.defaultTodo
    directive := some Config.defaultDirective
    context := some Config.defaultContext
    markupExtensions := some Config.defaultMarkupExtensions
    ambiguous := some .ask }

end ExpectError.Draft
