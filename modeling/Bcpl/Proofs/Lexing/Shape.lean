import Bcpl.Proofs.Lexing.LexemeEnd

/-!
What the kind of a lexeme says about its text and about the text it is read from.
-/

namespace Bcpl.Lexeme

/-- The texts of the lexemes of a kind, and how a text begins that they are read from. -/
def Shape (text : Text) (lexeme : Lexeme) : Prop :=
  match lexeme.kind with
  | .eof => text = [] ∧ lexeme.text = []
  | .comment => ∃ rest, text = '/' :: '/' :: rest ∧ lexeme = remark rest
  | .name | .keyword _ => ∃ first rest, text = first :: rest ∧ first.isAlpha = true ∧
      lexeme.text = first :: rest.takeWhile Char.isAlphanum
  | .number => ∃ first rest, text = first :: rest ∧ first.isDigit = true ∧
      lexeme.text = first :: rest.takeWhile Char.isDigit
  | .stringConst => ∃ rest, text = '"' :: rest ∧
      lexeme.text = '"' :: rest.takeWhile (· != '"') ++ ['"']
  | .symbol symbol => lexeme.text = symbol.spelling
  | .illegal => (∃ rest, text = '"' :: rest ∧ lexeme.text = '"' :: rest) ∨
      ∃ first rest, text = first :: rest ∧ first ≠ '"' ∧ lexeme.text = [first]

theorem read_shape (text : Text) : Shape text (read text) := by
  fun_cases read text with
  | case1 => exact ⟨rfl, rfl⟩
  | case2 rest => exact ⟨rest, rfl, rfl⟩
  | case3 first rest _ letter =>
      have shape : ∃ head tail, first :: rest = head :: tail ∧ head.isAlpha = true ∧
          first :: rest.takeWhile Char.isAlphanum = head :: tail.takeWhile Char.isAlphanum :=
        ⟨first, rest, rfl, letter, rfl⟩
      rcases ofWord_cases (first :: rest.takeWhile Char.isAlphanum) with same | ⟨reserved, same⟩ <;>
        simpa only [Shape, word, same] using shape
  | case4 first rest _ _ digit => exact ⟨first, rest, rfl, digit, rfl⟩
  | case5 rest =>
      by_cases closed : '"' ∈ rest
      · obtain ⟨inner, after, rfl, inside⟩ := List.eq_append_cons_of_mem closed
        rw [quotation_of_mem inside]
        refine ⟨inner ++ '"' :: after, rfl, ?_⟩
        simp [List.takeWhile_append_of_pos (forall_bne_of_notMem inside)]
      · rw [quotation_of_notMem closed]
        exact .inl ⟨rest, rfl, rfl⟩
  | case6 first rest _ _ _ unquoted =>
      rcases mark_spelled first rest with same | ⟨symbol, same, _⟩
      · rw [same]
        exact .inr ⟨first, rest, rfl, unquoted, rfl⟩
      · rw [same]
        rfl

/-- What is illegal is an open string constant or a single character. -/
theorem illegal_cases {lexeme : Lexeme} (read : Lexeme.read lexeme.text = lexeme)
    (illegal : lexeme.kind = .illegal) :
    (∃ inner, lexeme.text = '"' :: inner ∧ '"' ∉ inner) ∨
      lexeme.text.head? ≠ some '"' ∧ lexeme.text.length = 1 := by
  have shape := Lexeme.read_shape lexeme.text
  rw [read] at shape
  simp only [Lexeme.Shape, illegal] at shape
  rcases shape with ⟨inner, spelled, _⟩ | ⟨first, rest, _, unquoted, spelled⟩
  · refine .inl ⟨inner, spelled, fun inside => ?_⟩
    obtain ⟨front, back, rfl, before⟩ := List.eq_append_cons_of_mem inside
    rw [spelled, read_quote, quotation_of_mem before] at read
    rw [← read] at illegal
    contradiction
  · exact .inr ⟨by simpa [spelled] using unquoted, by simp [spelled]⟩

end Bcpl.Lexeme
