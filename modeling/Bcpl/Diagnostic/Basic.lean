import Bcpl.Span
import Bcpl.Text.Basic

/-!
Messages about regions of texts.
-/

namespace Bcpl

inductive Severity where
  | warning
  | error
deriving DecidableEq, Repr, Inhabited

def Severity.name : Severity → Text
  | .warning => "Warning".toList
  | .error => "Error".toList

inductive SnippetKind where
  | primary
  | secondary
deriving DecidableEq, Repr, Inhabited

structure Snippet where
  kind : SnippetKind
  label : Text
  source : Nat
  span : Span
deriving DecidableEq, Repr, Inhabited

structure Diagnostic where
  severity : Severity
  message : Option Text
  snippets : List Snippet
deriving DecidableEq, Repr, Inhabited

end Bcpl
