import ExpectError.Toml.Value

/-!
# Readers of documents

A reader of documents turns a text into a table, or says why there is none. How settings are loaded
does not depend on which reader it is, only on which of three ways it fails in: a malformed document
and a value that makes no sense are told in the log, a conflict between sections is not caught.
-/

namespace ExpectError.Toml

inductive Conflict where
  | duplicate (key : String)
  | redefined
  deriving DecidableEq, Repr

def Conflict.message : Conflict → String
  | .duplicate key => "Key \"" ++ key ++ "\" already exists."
  | .redefined => "Redefinition of an existing table"

/-- Why a text gives no table. -/
inductive DocumentFault where
  | malformed (reason : String)
  /-- A value in it is out of range, or of a kind that cannot be dealt with. -/
  | unusable (reason : String)
  | conflict (c : Conflict)
  deriving DecidableEq, Repr

/-- A reader of documents. -/
abbrev DocumentReader := String → Except DocumentFault Table

end ExpectError.Toml
