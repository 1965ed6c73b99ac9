import Bcpl.Parser.SyntaxError
import Bcpl.Diagnostic.Basic

/-!
Syntax errors as messages.
-/

namespace Bcpl

def SyntaxError.diagnostic (error : SyntaxError) (source : Nat) : Diagnostic where
  severity := .error
  message := some "syntax error".toList
  snippets := [⟨.primary, error.cause.message, source, error.span⟩]

end Bcpl
