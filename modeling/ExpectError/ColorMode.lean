/-!
# When to use colors

Colors are used if the caller says so; else the environment decides, and at last whether the
output goes to a terminal.
-/

namespace ExpectError

inductive ColorMode where
  | auto
  | always
  | never
  deriving DecidableEq, Repr

namespace ColorMode

def all : List ColorMode :=
  [.auto, .always, .never]

def name : ColorMode → String
  | .auto => "auto"
  | .always => "always"
  | .never => "never"

def ofName? (name : String) : Option ColorMode :=
  all.find? fun mode => mode.name = name

/-- The variables of the environment that bear on colors. -/
structure Environment where
  /-- Wants colors, unless it is empty or zero. -/
  forceColor : Option String := none
  /-- Wants none, whatever it holds. -/
  noColor : Option String := none

def resolve (mode : ColorMode) (environment : Environment) (terminal : Bool) : Bool :=
  match mode with
  | .always => true
  | .never => false
  | .auto =>
    if environment.forceColor.any fun value => value ≠ "" && value ≠ "0" then true
    else if environment.noColor.isSome then false
    else terminal

end ColorMode

end ExpectError
