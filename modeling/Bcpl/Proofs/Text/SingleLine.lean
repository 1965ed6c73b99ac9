import Bcpl.Text.Escape
import Bcpl.Text.Basic

/-!
Texts on one line. Escaped texts and numerals hold no line break.
-/

namespace Bcpl.Text

/-- A number above the digits is written as a star. -/
theorem digitChar_plain (digit : Nat) :
    (Nat.digitChar digit).isAlphanum = true ∨ Nat.digitChar digit = '*' := by
  rcases Nat.lt_or_ge digit 16 with below | above
  · have letters : ∀ digit < 16, (Nat.digitChar digit).isAlphanum = true := by decide
    exact .inl (letters digit below)
  · right
    simp (disch := omega) only [Nat.digitChar, if_neg]

theorem toDigits_plain {base n : Nat} {c : Char} (member : c ∈ Nat.toDigits base n) :
    c.isAlphanum = true ∨ c = '*' := by
  have core (fuel n : Nat) (tail : Text) (plain : ∀ c ∈ tail, c.isAlphanum = true ∨ c = '*') :
      ∀ c ∈ Nat.toDigitsCore base fuel n tail, c.isAlphanum = true ∨ c = '*' := by
    induction fuel generalizing n tail with
    | zero => exact plain
    | succ fuel ih =>
        have longer : ∀ c ∈ Nat.digitChar (n % base) :: tail, c.isAlphanum = true ∨ c = '*' :=
          List.forall_mem_cons.mpr ⟨digitChar_plain _, plain⟩
        rw [Nat.toDigitsCore]
        split
        · exact longer
        · exact ih _ _ longer
  exact core _ _ _ (by simp) c member

theorem newline_notMem_toDigits (base n : Nat) : '\n' ∉ Nat.toDigits base n :=
  fun inside => absurd (toDigits_plain inside) (by decide)

theorem newline_notMem_escapeCodePoint (c : Char) : '\n' ∉ escapeCodePoint c := by
  have digits := newline_notMem_toDigits 16 c.toNat
  simp [escapeCodePoint, hexadecimal, digits]

theorem newline_notMem_escapeChar (c : Char) : '\n' ∉ escapeChar c := by
  unfold escapeChar
  split
  · next letter found =>
      unfold escapeLetter? at found
      split at found <;> cases found <;> decide
  · next plain =>
      split
      · rw [List.mem_singleton]
        rintro rfl
        contradiction
      · exact newline_notMem_escapeCodePoint c

theorem newline_notMem_escape (text : Text) : '\n' ∉ escape text := by
  cases text with
  | nil => exact List.not_mem_nil
  | cons c rest =>
      rw [escape, List.mem_append, List.mem_flatMap]
      rintro (first | ⟨other, _, inside⟩)
      · unfold escapeFirst at first
        split at first
        · exact newline_notMem_escapeCodePoint c first
        · exact newline_notMem_escapeChar c first
      · exact newline_notMem_escapeChar other inside

end Bcpl.Text
