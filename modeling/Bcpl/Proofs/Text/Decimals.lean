import Bcpl.Checked

/-!
Numbers in decimal. They are written in digits only, as many as the logarithm of the number says
(`length_decimal`). A larger number takes no less room, and no two numbers are written in the same
way.
-/

namespace Bcpl.Text

theorem decimal_ne_nil (n : Nat) : decimal n ≠ [] := Nat.toDigits_ne_nil

theorem isDigit_of_mem_decimal {n : Nat} {c : Char} (member : c ∈ decimal n) : c.isDigit = true :=
  Nat.isDigit_of_mem_toDigits (by decide) (by decide) member

theorem ascii_of_mem_decimal {n : Nat} {c : Char} (member : c ∈ decimal n) :
    c.toNat < 0x80 ∧ c ≠ '\n' := by
  have digit := isDigit_of_mem_decimal member
  constructor
  · simp only [Char.isDigit, Bool.and_eq_true, decide_eq_true_eq] at digit
    exact Nat.lt_of_le_of_lt (UInt32.le_iff_toNat_le.mp digit.2) (by decide)
  · rintro rfl
    contradiction

/-- A number has one digit for each ten that it can be divided by, and one more. -/
theorem length_decimal (n : Nat) : (decimal n).length = 1 + Checked.tens n := by
  fun_induction Checked.tens n with
  | case1 n small => rw [decimal, Nat.toDigits_of_lt_base small, List.length_singleton]
  | case2 n large ih =>
      rw [decimal] at ih ⊢
      rw [Nat.toDigits_of_base_le (by decide) (Nat.not_lt.mp large), List.length_append, ih,
        List.length_singleton, Nat.add_comm]

theorem length_decimal_mono {first second : Nat} (ordered : first ≤ second) :
    (decimal first).length ≤ (decimal second).length := by
  have positive : 0 < (decimal second).length := Nat.length_toDigits_pos
  have bound := (Nat.length_toDigits_le_iff (by decide) positive).mp
    (Nat.le_refl (decimal second).length)
  apply (Nat.length_toDigits_le_iff (by decide) positive).mpr
  exact Nat.lt_of_le_of_lt ordered bound

theorem decimal_injective : Function.Injective decimal := by
  intro first second same
  have read := congrArg (fun digits => Nat.ofDigitChars 10 digits 0) same
  simpa [decimal, Nat.ofDigitChars_ten_toDigits] using read

end Bcpl.Text
