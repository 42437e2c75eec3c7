import ExpectError.Run

/-!
# Failures of the program

The ways in which the program itself fails, with the codes that it then exits with, and what
becomes of a run that ended early.
-/

namespace ExpectError

inductive FailureKind where
  | usage
  | encoding
  | fileNotFound
  | io
  | permissionDenied
  deriving DecidableEq, Repr

def FailureKind.exitCode : FailureKind → Nat
  | .usage => 64
  | .encoding => 65
  | .fileNotFound => 66
  | .io => 74
  | .permissionDenied => 77

/-- A failure in words. -/
structure Failure where
  kind : FailureKind
  message : String
  deriving DecidableEq, Repr

namespace Failure

def pathText : Option String → String
  | none => "None"
  | some path => path

/-- The failure that a fault of input or output means. -/
def ofFault : IoFault → Failure
  | .encoding fault => ⟨.encoding, "Cannot decode/encode file as UTF-8: " ++ fault.message⟩
  | .unencodable fault => ⟨.encoding, "Cannot decode/encode file as UTF-8: " ++ fault.message⟩
  | .system .noSuchFile path => ⟨.fileNotFound, "File not found: " ++ pathText path⟩
  | .system .notPermitted path => ⟨.permissionDenied, "Permission denied: " ++ pathText path⟩
  | .system .accessDenied path => ⟨.permissionDenied, "Permission denied: " ++ pathText path⟩
  | fault => ⟨.io, "I/O error: " ++ fault.message⟩

end Failure

end ExpectError
