import Bcpl.Proofs.Lexing.Lossless
import Bcpl.Proofs.Lexing.Shape

/-!
The tokens of a text, those put in between included: where they stand in the text (`Token.Stands`),
and which of their texts are short enough to be quoted as they are (`newline_notMem_text`).
-/

namespace Bcpl

/-- The region of a token is cut out of a text between two characters. -/
structure Token.Stands (text : Text) (token : Token) : Prop where
  start : text.Boundary token.span.start
  stop : text.Boundary token.span.stop
  ordered : token.span.start ≤ token.span.stop

theorem mem_weave {armed : Bool} {raws : List RawToken} {token : Token}
    (member : token ∈ weave armed raws) :
    ∃ raw ∈ raws, token = raw.token ∨
      token = Token.synthetic (.symbol .semicolon) raw.token.span.start ∨
      token = Token.synthetic (.keyword .do_) raw.token.span.start := by
  induction raws generalizing armed with
  | nil => contradiction
  | cons raw rest ih =>
      rw [weave] at member
      rcases List.mem_append.mp member with inserted | written
      · exact ⟨raw, List.mem_cons_self, .inr (RawToken.eq_of_mem_front inserted)⟩
      · rcases List.mem_cons.mp written with rfl | later
        · exact ⟨raw, List.mem_cons_self, .inl rfl⟩
        · obtain ⟨other, listed, same⟩ := ih later
          exact ⟨other, List.mem_cons_of_mem _ listed, same⟩

namespace Layout

variable {text : Text} {chunks : List Chunk}

theorem read_of_mem (layout : Layout text chunks) {offset : Nat} {raw : RawToken}
    (member : raw ∈ placed offset chunks) :
    Lexeme.read raw.token.text = raw.token.toLexeme := by
  induction layout generalizing offset with
  | finish blank =>
      obtain rfl := List.mem_singleton.mp member
      rfl
  | lexeme blank visible read ends following ih =>
      rcases List.mem_cons.mp member with rfl | later
      · exact read
      · exact ih later

end Layout

variable {text : Text} {token : Token}

theorem stands_of_mem_lex (member : token ∈ lex text) : token.Stands text := by
  obtain ⟨chunks, layout⟩ := Layout.exists_chunks text
  rw [layout.lex_eq] at member
  obtain ⟨raw, listed, rfl | rfl | rfl⟩ := mem_weave member <;>
    obtain ⟨start, stop, ordered, _⟩ := layout.cut_of_mem listed
  · exact ⟨start, stop, ordered⟩
  all_goals exact ⟨start, start, Nat.le_refl _⟩

/-- Numbers and single characters hold no line break. -/
theorem newline_notMem_text (member : token ∈ lex text)
    (short : token.kind = .number ∨ token.kind = .illegal ∧ token.text.head? ≠ some '"') :
    '\n' ∉ token.text := by
  obtain ⟨chunks, layout⟩ := Layout.exists_chunks text
  rw [layout.lex_eq] at member
  obtain ⟨raw, listed, rfl | rfl | rfl⟩ := mem_weave member
  · have shape := Lexeme.read_shape raw.token.text
    rw [layout.read_of_mem listed] at shape
    rcases short with number | ⟨illegal, unquoted⟩
    · simp only [Lexeme.Shape, number] at shape
      obtain ⟨first, rest, _, digit, spelled⟩ := shape
      have digits : ∀ c ∈ raw.token.text, c.isDigit = true := by
        rw [spelled]
        exact List.forall_mem_cons.mpr ⟨digit, fun c inside => List.mem_takeWhile_imp inside⟩
      exact fun newline => absurd (digits '\n' newline) (by decide)
    · simp only [Lexeme.Shape, illegal] at shape
      rcases shape with ⟨rest, _, spelled⟩ | ⟨first, rest, _, _, spelled⟩
      · simp [spelled] at unquoted
      · obtain ⟨_, _, _, _, ended | ⟨c, tail, spelled', shown⟩⟩ := layout.split_of_mem listed
        · simp [ended] at illegal
        · rw [spelled] at spelled' ⊢
          obtain ⟨rfl, rfl⟩ := List.cons.inj spelled'
          intro newline
          obtain rfl := List.mem_singleton.mp newline
          exact absurd shown (by decide)
  all_goals simp [Token.synthetic] at short

end Bcpl
