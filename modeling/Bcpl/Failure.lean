import Bcpl.Text.Basic

/-!
Why a command does not come to its end.
-/

namespace Bcpl

inductive Failure where
  /-- The output takes no more bytes. -/
  | outputFull
  | fileNotFound
  | isDirectory
  | notDirectory
  | nameTooLong
  | permissionDenied
  /-- A file does not hold a text. -/
  | invalidText
  /-- Errors were reported. -/
  | errorsReported
deriving DecidableEq, Repr, Inhabited

/-- What is said about a failure. Failures of the system keep its wording and number. -/
def Failure.message : Failure → Text
  | .outputFull => "failed to write whole buffer".toList
  | .fileNotFound => "No such file or directory (os error 2)".toList
  | .isDirectory => "Is a directory (os error 21)".toList
  | .notDirectory => "Not a directory (os error 20)".toList
  | .nameTooLong => "File name too long (os error 36)".toList
  | .permissionDenied => "Permission denied (os error 13)".toList
  | .invalidText => "stream did not contain valid UTF-8".toList
  | .errorsReported => "errors while compiling".toList

end Bcpl
