import Bcpl.Span
import Bcpl.Token.Lexeme

/-!
Tokens: lexemes with the regions they were read from.
-/

namespace Bcpl

structure Token extends Lexeme where
  span : Span
deriving DecidableEq, Repr, Inhabited

namespace Token

/-- A token that is not written in the text. It stands, empty, in front of the token at `offset`. -/
def synthetic (kind : Kind) (offset : Nat) : Token :=
  ⟨⟨kind, kind.spelling?.getD []⟩, Span.empty offset⟩

end Token

end Bcpl
