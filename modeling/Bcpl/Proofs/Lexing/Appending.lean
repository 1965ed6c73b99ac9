import Bcpl.Proofs.Lexing.Cutting
import Bcpl.Proofs.Lexing.Respacing

/-!
Lexing a text that goes on. What is written behind a text takes part in the last of its tokens at
most, so a token that ends in front of the end of the text stays as it is, with all the tokens in
front of it (`Layout.rowTokens_append`).
-/

namespace Bcpl

/-- A token that has no text, or whose text reaches up to a byte. -/
def Token.Touches (token : Token) (stop : Nat) : Prop :=
  token.span.isEmpty = true ∨ token.span.stop = stop

namespace Token

theorem touches_of_mem_front {armed : Bool} {raw : RawToken} {token : Token} (stop : Nat)
    (member : token ∈ raw.front armed) : token.Touches stop := by
  rcases RawToken.eq_of_mem_front member with rfl | rfl <;>
    exact .inl (by simp [synthetic, Span.isEmpty, Span.length, Span.empty])

theorem touches_of_mem_plainTokens {armed : Bool} {offset : Nat} {chunk : Chunk} {token : Token}
    (member : token ∈ chunk.plainTokens armed offset) :
    token.Touches (offset + chunk.gap.size + Text.size chunk.lexeme.text) := by
  rcases List.mem_append.mp member with inserted | written
  · exact touches_of_mem_front _ inserted
  · have same := List.mem_singleton.mp (List.mem_of_mem_filter written)
    exact .inr (by rw [same])

end Token

theorem rowTokens_singleton (armed : Bool) (offset : Nat) (chunk : Chunk) :
    rowTokens armed offset [chunk] = chunk.plainTokens armed offset := List.append_nil _

namespace Layout

variable {text : Text} {chunks : List Chunk}

theorem rowTokens_ne_nil (layout : Layout text chunks) (armed : Bool) (offset : Nat) :
    rowTokens armed offset chunks ≠ [] := by
  induction layout generalizing armed offset with
  | finish => simp [rowTokens, Chunk.plainTokens]
  | lexeme _ _ _ _ _ ih => exact List.append_ne_nil_of_right_ne_nil _ (ih _ _)

/-- A text that goes on keeps its tokens, but for those at its end. -/
theorem rowTokens_append (layout : Layout text chunks) (more : Text) :
    ∃ others, Layout (text ++ more) others ∧ ∀ armed offset, ∃ front back after,
      rowTokens armed offset chunks = front ++ back ∧
      rowTokens armed offset others = front ++ after ∧ after ≠ [] ∧
      ∀ token ∈ back, token.Touches (offset + text.size) := by
  induction layout with
  | @finish gap blank =>
      obtain ⟨others, longer⟩ := exists_chunks (gap ++ more)
      refine ⟨others, longer, fun armed offset => ⟨[], rowTokens armed offset [⟨gap, ⟨.eof, []⟩⟩],
        _, rfl, rfl, longer.rowTokens_ne_nil armed offset, fun token member => ?_⟩⟩
      rw [rowTokens_singleton] at member
      exact Token.touches_of_mem_plainTokens member
  | @lexeme gap rest lexeme chunks blank visible read ends following ih =>
      by_cases last : rest = []
      · subst last
        obtain rfl := following.eq_of_nil rfl
        obtain ⟨others, longer⟩ := exists_chunks (gap ++ (lexeme.text ++ []) ++ more)
        refine ⟨others, longer, fun armed offset => ⟨[], rowTokens armed offset
          [⟨gap, lexeme⟩, ⟨[], ⟨.eof, []⟩⟩], _, rfl, rfl,
          longer.rowTokens_ne_nil armed offset, fun token member => ?_⟩⟩
        have stop : offset + (gap ++ (lexeme.text ++ [])).size =
            offset + gap.size + Text.size lexeme.text := by
          rw [List.append_nil, Text.size_append, Nat.add_assoc]
        rw [stop]
        rw [rowTokens, rowTokens_singleton] at member
        rcases List.mem_append.mp member with own | ended
        · exact Token.touches_of_mem_plainTokens own
        · exact Token.touches_of_mem_plainTokens ended
      · obtain ⟨others, longer, same⟩ := ih
        have stops : lexeme.EndsBefore (rest ++ more) := by
          intro c next
          rw [List.head?_append_of_ne_nil _ last] at next
          exact ends c next
        refine ⟨⟨gap, lexeme⟩ :: others, ?_, fun armed offset => ?_⟩
        · simpa using Layout.lexeme blank visible read stops longer
        · let chunk : Chunk := ⟨gap, lexeme⟩
          obtain ⟨front, back, after, here, there, some, touches⟩ :=
            same (chunk.arms armed) (offset + gap.size + Text.size lexeme.text)
          refine ⟨chunk.plainTokens armed offset ++ front, back, after, ?_, ?_, some, ?_⟩
          · rw [rowTokens, here, List.append_assoc]
          · rw [rowTokens, there, List.append_assoc]
          · simpa only [Text.size_append, Nat.add_assoc] using touches

end Layout

end Bcpl
