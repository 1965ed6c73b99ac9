import Bcpl.Lexer

/-!
Where a parser takes its tokens from: a lexer that reads them on demand, or a list of them. A
source has fewer tokens left after each one that does not end the file.
-/

namespace Bcpl

class TokenSource (σ : Type) where
  next : σ → Token × σ
  size : σ → Nat
  size_next_lt : ∀ source, (next source).1.kind ≠ .eof → size (next source).2 < size source
  /-- The token held back behind one that was put in front of it. -/
  pending : σ → Option Token

instance : TokenSource Lexer where
  next := Lexer.next
  size := Lexer.size
  size_next_lt := Lexer.size_next_lt
  pending := Lexer.pending

/-- A list of tokens ends the file where it ends, if it has not done so before. -/
instance : TokenSource (List Token) where
  next
    | [] => (⟨⟨.eof, []⟩, Span.empty 0⟩, [])
    | token :: rest => (token, rest)
  size := List.length
  size_next_lt
    | [], unfinished => absurd rfl unfinished
    | _ :: _, _ => Nat.lt_succ_self _
  pending _ := none

end Bcpl
