import Bcpl.Checked
import Bcpl.Proofs.Text.Slice

/-!
When checked operations have a result.
-/

namespace Bcpl.Checked

variable {first second number low high start stop : Nat} {text piece : Text}

theorem subtract_of_le (ordered : second ≤ first) :
    subtract first second = .ok (first - second) := if_pos ordered

theorem clamp_of_le (ordered : low ≤ high) :
    clamp number low high = .ok (max low (min number high)) := if_pos ordered

theorem logarithm_of_pos (positive : 0 < number) : logarithm number = .ok (tens number) :=
  if_neg (Nat.ne_of_gt positive)

theorem slice_eq_ok (cut : text.slice? start stop = some piece) :
    slice text start stop = .ok piece := by
  obtain ⟨before, after, rfl, rfl, rfl⟩ := Text.slice?_eq_some_iff.mp cut
  have inside : before.size ≤ before.size + piece.size ∧
      before.size + piece.size ≤ Text.size (before ++ piece ++ after) := by
    simp only [Text.size_append]
    omega
  rw [slice, if_pos inside, cut]

/-- Inside a text only a cut through a character can go wrong. -/
theorem slice_of_inside (ordered : start ≤ stop) (inside : stop ≤ text.size) :
    slice text start stop =
      match text.slice? start stop with
      | some piece => .ok piece
      | none => .error .splitCharacter :=
  if_pos ⟨ordered, inside⟩

end Bcpl.Checked
