import Bcpl.Diagnostic.Drawing
import Bcpl.Proofs.Text.Decimals

/-!
Texts with control sequences in them. Where a text holds no escape character of its own, taking the
sequences out leaves the text (`eraseEscapes_append`, `eraseEscapes_escapes`).
-/

namespace Bcpl.Text

/-- Digits and the mark between two numbers. -/
def isParameter (c : Char) : Bool := c.isDigit || c = ';'

/-- A text without its control sequences. Such a sequence is an escape character and a bracket, with
parameters and one more character behind them. -/
def eraseEscapes : Text → Text
  | [] => []
  | '\x1b' :: '[' :: rest => eraseEscapes ((rest.dropWhile isParameter).drop 1)
  | c :: rest => c :: eraseEscapes rest
termination_by text => text.length
decreasing_by
  · have dropped := (List.dropWhile_sublist (l := rest) isParameter).length_le
    simp only [List.length_drop, List.length_cons]
    omega
  · exact Nat.lt_succ_self _

/-- No control sequence begins in the text. -/
def Unescaped (text : Text) : Prop := '\x1b' ∉ text

instance (text : Text) : Decidable text.Unescaped := inferInstanceAs (Decidable (¬_))

variable {text before after : Text}

@[simp] theorem unescaped_nil : Unescaped [] := List.not_mem_nil

@[simp] theorem unescaped_cons {c : Char} :
    Unescaped (c :: text) ↔ c ≠ '\x1b' ∧ text.Unescaped := by
  simp [Unescaped, eq_comm]

@[simp] theorem unescaped_append :
    Unescaped (before ++ after) ↔ before.Unescaped ∧ after.Unescaped := by
  simp [Unescaped]

theorem Unescaped.of_subset (unescaped : text.Unescaped) (within : before ⊆ text) :
    before.Unescaped :=
  fun inside => unescaped (within inside)

@[simp] theorem unescaped_replicate_space (count : Nat) :
    Unescaped (List.replicate count ' ') := by
  intro inside
  have other := List.eq_of_mem_replicate inside
  contradiction

@[simp] theorem unescaped_decimal (n : Nat) : (decimal n).Unescaped := by
  intro inside
  have digit := isDigit_of_mem_decimal inside
  contradiction

@[simp] theorem unescaped_alignRight (width : Nat) :
    (alignRight width text).Unescaped ↔ text.Unescaped := by
  simp [alignRight]

theorem Unescaped.flatten_replicate (unescaped : text.Unescaped) (count : Nat) :
    Unescaped (List.replicate count text).flatten := by
  refine unescaped.of_subset fun c inside => ?_
  obtain ⟨copy, listed, inside⟩ := List.mem_flatten.mp inside
  rwa [List.eq_of_mem_replicate listed] at inside

theorem Unescaped.expandTabs (unescaped : text.Unescaped) : (expandTabs text).Unescaped := by
  intro inside
  obtain ⟨c, member, same⟩ := List.mem_flatMap.mp inside
  split at same
  · have other := List.eq_of_mem_replicate same
    contradiction
  · obtain rfl := List.mem_singleton.mp same
    exact unescaped member

theorem eraseEscapes_cons_of_ne {c : Char} {rest : Text} (other : c ≠ '\x1b') :
    eraseEscapes (c :: rest) = c :: rest.eraseEscapes :=
  eraseEscapes.eq_3 c rest fun _ same _ => absurd same other

theorem eraseEscapes_append (unescaped : before.Unescaped) (after : Text) :
    eraseEscapes (before ++ after) = before ++ after.eraseEscapes := by
  induction before with
  | nil => rfl
  | cons c rest ih =>
      obtain ⟨other, unescaped⟩ := unescaped_cons.mp unescaped
      rw [List.cons_append, eraseEscapes_cons_of_ne other, ih unescaped, List.cons_append]

theorem isParameter_of_mem {parameters : List Nat} {c : Char}
    (member : c ∈ [';'].intercalate (parameters.map decimal)) : isParameter c = true := by
  induction parameters with
  | nil => simp at member
  | cons first rest ih =>
      have digit (inside : c ∈ decimal first) : isParameter c = true := by
        simp [isParameter, isDigit_of_mem_decimal inside]
      cases rest with
      | nil => exact digit (by simpa using member)
      | cons second rest =>
          rw [List.map_cons, List.map_cons, List.intercalate_cons_cons, ← List.map_cons] at member
          rcases List.mem_append.mp member with front | behind
          · rcases List.mem_append.mp front with inside | mark
            · exact digit inside
            · simp [isParameter, List.mem_singleton.mp mark]
          · exact ih behind

theorem eraseEscapes_terminalEscape (parameters : List Nat) (rest : Text) :
    eraseEscapes (terminalEscape parameters ++ rest) = rest.eraseEscapes := by
  have written : terminalEscape parameters ++ rest =
      '\x1b' :: '[' :: ([';'].intercalate (parameters.map decimal) ++ 'm' :: rest) := by
    simp [terminalEscape]
  have ended : isParameter 'm' = false := by decide
  rw [written, eraseEscapes, List.dropWhile_append_of_pos fun c => isParameter_of_mem,
    List.dropWhile_cons_of_neg (by simp [ended]), List.drop_one, List.tail_cons]

theorem eraseEscapes_escapes (style : Style) (rest : Text) :
    eraseEscapes (style.escapes ++ rest) = rest.eraseEscapes := by
  rw [Style.escapes]
  induction style.parameters with
  | nil => rfl
  | cons first others ih =>
      rw [List.flatMap_cons, List.append_assoc, eraseEscapes_terminalEscape, ih]

end Bcpl.Text
