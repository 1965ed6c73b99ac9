import Mathlib.Data.List.Nodup
import Bcpl.Proofs.Text.Slice
import Bcpl.Token.Lexeme

/-!
The reserved words, told from names. Two reserved words never share a spelling, so a word is the one
that it spells, or else a name.
-/

namespace Bcpl

namespace Keyword

theorem mem_all (word : Keyword) : word ∈ all := by
  cases word <;> decide

theorem spelling_injective : Function.Injective spelling := by
  have distinct : (all.map spelling).Nodup := by decide
  intro first second same
  exact List.inj_on_of_nodup_map distinct (mem_all first) (mem_all second) same

theorem length_spelling (word : Keyword) : 2 ≤ word.spelling.length := by
  cases word <;> decide

theorem ofSpelling?_eq_some_iff {text : Text} {word : Keyword} :
    ofSpelling? text = some word ↔ word.spelling = text := by
  constructor
  · intro found
    simpa using List.find?_some found
  · intro spelled
    cases found : ofSpelling? text with
    | none => simpa [spelled] using List.find?_eq_none.mp found word word.mem_all
    | some other =>
        have same : other.spelling = text := by simpa using List.find?_some found
        rw [spelling_injective (same.trans spelled.symm)]

end Keyword

namespace Lexeme

variable {text : Text} {word : Keyword}

/-- No reserved word is a single letter. -/
theorem ofWord_eq (text : Text) : Kind.ofWord text =
    match Keyword.ofSpelling? text with
    | some reserved => .keyword reserved
    | none => .name := by
  unfold Kind.ofWord
  cases found : Keyword.ofSpelling? text with
  | none => exact ite_self _
  | some reserved =>
      have long := reserved.length_spelling
      rw [Keyword.ofSpelling?_eq_some_iff.mp found] at long
      exact if_pos (Nat.lt_of_lt_of_le long text.length_le_size)

theorem ofWord_eq_keyword_iff : Kind.ofWord text = .keyword word ↔ word.spelling = text := by
  rw [← Keyword.ofSpelling?_eq_some_iff, ofWord_eq]
  split <;> simp_all

theorem ofWord_eq_name_iff :
    Kind.ofWord text = .name ↔ text ∉ Keyword.all.map Keyword.spelling := by
  have spelled : text ∈ Keyword.all.map Keyword.spelling ↔
      ∃ word, Keyword.ofSpelling? text = some word := by
    simp [Keyword.ofSpelling?_eq_some_iff, Keyword.mem_all]
  rw [spelled, ofWord_eq]
  split <;> simp_all

end Lexeme

end Bcpl
