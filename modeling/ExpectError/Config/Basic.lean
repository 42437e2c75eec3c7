import ExpectError.Comment
import ExpectError.Path

/-!
# Settings

The settings of a run. A *draft* holds what has been set so far; freezing it fills the gaps with
the built-in settings.
-/

namespace ExpectError

/-- What to do at a site whose style is not plain from its surroundings. -/
inductive AmbiguousPolicy where
  | ask
  | plain
  | embedded
  | skip
  deriving DecidableEq, Repr

namespace AmbiguousPolicy

/-- All policies, in the order in which they are listed. -/
def all : List AmbiguousPolicy :=
  [.ask, .plain, .embedded, .skip]

def name : AmbiguousPolicy → String
  | .ask => "ask"
  | .plain => "plain"
  | .embedded => "embedded"
  | .skip => "skip"

def ofName? (name : String) : Option AmbiguousPolicy :=
  all.find? fun policy => policy.name = name

/-- The style that a policy fixes; to ask fixes none. -/
def style? : AmbiguousPolicy → Option CommentStyle
  | .ask => none
  | .plain => some .plain
  | .embedded => some .embedded
  | .skip => some .skip

end AmbiguousPolicy

/-- The settings of a run. -/
structure Config where
  /-- Where the settings come from. -/
  sources : List String
  /-- The word in front of the note. -/
  todo : String
  /-- The directive that silences the next line. -/
  directive : String
  /-- The radius of the lines looked at around a site. -/
  context : Int
  /-- The endings of the paths of files with markup. -/
  markupExtensions : List String
  ambiguous : AmbiguousPolicy
  /-- The number of diagnostics to draw, if not all are taken. -/
  sample : Option Int
  seed : Option Int
  /-- To write nothing. -/
  dry : Bool
  verbose : Bool
  diff : Bool
  /-- The directory that relative paths of the report start from. -/
  base : Option Path
  deriving DecidableEq, Repr

namespace Config

def defaultDirective : String := "@ts-expect-error"

def defaultTodo : String := "TODO"

def defaultContext : Int := 5

def defaultMarkupExtensions : List String := [".tsx", ".jsx"]

/-- The last line of every insertion, without the marks of a comment. -/
def note (config : Config) : String :=
  config.directive ++ " " ++ config.todo ++ ": fix error and remove"

def resolve (config : Config) (path : String) : Path :=
  match config.base with
  | none => Path.ofText path
  | some base => base.join (Path.ofText path)

/-- Whether a path belongs to a file with markup. -/
def isMarkupFile (config : Config) (path : String) : Bool :=
  config.markupExtensions.any fun ending => ending.toList.isSuffixOf path.toList

end Config

/-- Settings as far as they have been made. -/
structure Draft where
  sources : List String := []
  todo : Option String := none
  directive : Option String := none
  context : Option Int := none
  markupExtensions : Option (List String) := none
  ambiguous : Option AmbiguousPolicy := none
  sample : Option Int := none
  seed : Option Int := none
  dry : Bool := false
  verbose : Bool := false
  diff : Bool := false
  base : Option Path := none
  deriving DecidableEq, Repr

namespace Draft

/-- The settings of a draft, with the built-in ones where nothing is set. An empty directive
counts as not set. -/
def freeze (draft : Draft) : Config where
  sources := draft.sources
  todo := draft.todo.getD Config.defaultTodo
  directive := (draft.directive.filter (· ≠ "")).getD Config.defaultDirective
  context := draft.context.getD Config.defaultContext
  markupExtensions := draft.markupExtensions.getD Config.defaultMarkupExtensions
  ambiguous := draft.ambiguous.getD .ask
  sample := draft.sample
  seed := draft.seed
  dry := draft.dry
  verbose := draft.verbose
  diff := draft.diff
  base := draft.base

/-- The draft with a further layer on top: what the layer sets wins. -/
def merge (draft layer : Draft) : Draft :=
  { draft with
    sources := draft.sources ++ layer.sources
    todo := layer.todo <|> draft.todo
    directive := layer.directive <|> draft.directive
    context := layer.context <|> draft.context
    markupExtensions := layer.markupExtensions <|> draft.markupExtensions
    ambiguous := layer.ambiguous <|> draft.ambiguous
    sample := layer.sample <|> draft.sample
    seed := layer.seed <|> draft.seed }

/-- Settings made by the caller; what is not given stays as it is. -/
structure Overrides where
  todo : Option String := none
  directive : Option String := none
  context : Option Int := none
  markupExtensions : Option (List String) := none
  ambiguous : Option AmbiguousPolicy := none
  sample : Option Int := none
  seed : Option Int := none
  dry : Option Bool := none
  verbose : Option Bool := none
  diff : Option Bool := none
  base : Option Path := none
  deriving DecidableEq, Repr

/-- The draft with the settings of the caller on top. -/
def override (draft : Draft) (args : Overrides) : Draft :=
  let layer : Draft :=
    { todo := args.todo
      directive := args.directive
      context := args.context
      markupExtensions := args.markupExtensions
      ambiguous := args.ambiguous
      sample := args.sample
      seed := args.seed }
  { draft.merge layer with
    dry := args.dry.getD draft.dry
    verbose := args.verbose.getD draft.verbose
    diff := args.diff.getD draft.diff
    base := args.base <|> draft.base }

end Draft

end ExpectError
