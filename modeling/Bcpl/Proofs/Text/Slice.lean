import Bcpl.Text.Basic

/-!
Places in a text that is put together from parts. The bytes in front of a part are the sizes of the
parts before it, so a cut there finds the part whole, and a piece put in there lands between the
parts.
-/

namespace Bcpl.Text

/-- A byte at which a text can be cut: it is not inside a character and not behind the end. -/
def Boundary (text : Text) (offset : Nat) : Prop :=
  ∃ before after, text = before ++ after ∧ size before = offset

/-- A text with a piece put in at a byte, if the text can be cut there. -/
def insertAt? (text : Text) (offset : Nat) (piece : Text) : Option Text := do
  let before ← takeBytes? offset text
  let after ← dropBytes? offset text
  return before ++ piece ++ after

variable (before middle after : Text)

@[simp] theorem size_append : size (before ++ after) = size before + size after := by
  induction before with
  | nil => simp [size]
  | cons c before ih => simp only [List.cons_append, size, ih, Nat.add_assoc]

theorem size_pos {text : Text} (visible : text ≠ []) : 0 < size text := by
  cases text with
  | nil => contradiction
  | cons c rest => exact Nat.add_pos_left c.utf8Size_pos _

theorem length_le_size (text : Text) : text.length ≤ size text := by
  induction text with
  | nil => exact Nat.le_refl _
  | cons c text ih =>
      have positive := c.utf8Size_pos
      simp only [List.length_cons, size]
      omega

theorem size_cons_eq_succ (c : Char) (rest : Text) :
    ∃ count, size (c :: rest) = count + 1 ∧ c.utf8Size ≤ count + 1 ∧
      count + 1 - c.utf8Size = size rest := by
  have positive := c.utf8Size_pos
  have total : size (c :: rest) = c.utf8Size + size rest := rfl
  exact ⟨c.utf8Size + size rest - 1, by omega, by omega, by omega⟩

theorem dropBytes?_append : dropBytes? (size before) (before ++ after) = some after := by
  induction before with
  | nil => cases after <;> rfl
  | cons c before ih =>
      obtain ⟨count, counted, fits, left⟩ := size_cons_eq_succ c before
      rw [counted, List.cons_append]
      simp only [dropBytes?, if_pos fits, left, ih]

theorem takeBytes?_append : takeBytes? (size before) (before ++ after) = some before := by
  induction before with
  | nil => cases after <;> rfl
  | cons c before ih =>
      obtain ⟨count, counted, fits, left⟩ := size_cons_eq_succ c before
      rw [counted, List.cons_append]
      simp only [takeBytes?, if_pos fits, left, ih, Option.map_some]

theorem slice?_append :
    slice? (before ++ middle ++ after) (size before) (size before + size middle) = some middle := by
  have ordered : size before ≤ size before + size middle := Nat.le_add_right _ _
  rw [slice?, if_pos ordered, List.append_assoc, dropBytes?_append, Option.bind_some,
    Nat.add_sub_cancel_left, takeBytes?_append]

theorem dropBytes?_eq_some_iff {text after : Text} {offset : Nat} :
    dropBytes? offset text = some after ↔ ∃ before, text = before ++ after ∧ size before = offset := by
  constructor
  · intro dropped
    fun_induction dropBytes? offset text with
    | case1 text => exact ⟨[], by simpa using dropped, rfl⟩
    | case2 count => contradiction
    | case3 count c rest fits ih =>
        obtain ⟨before, rfl, rest⟩ := ih dropped
        exact ⟨c :: before, rfl, by rw [size, rest, Nat.add_sub_cancel' fits]⟩
    | case4 count c rest split => contradiction
  · rintro ⟨before, rfl, rfl⟩
    exact dropBytes?_append before after

theorem takeBytes?_eq_some_iff {text before : Text} {offset : Nat} :
    takeBytes? offset text = some before ↔ ∃ after, text = before ++ after ∧ size before = offset := by
  constructor
  · intro taken
    fun_induction takeBytes? offset text generalizing before with
    | case1 text =>
        cases taken
        exact ⟨text, rfl, rfl⟩
    | case2 count => contradiction
    | case3 count c rest fits ih =>
        obtain ⟨front, found, rfl⟩ := Option.map_eq_some_iff.mp taken
        obtain ⟨after, rfl, rest⟩ := ih found
        exact ⟨after, rfl, by rw [size, rest, Nat.add_sub_cancel' fits]⟩
    | case4 count c rest split => contradiction
  · rintro ⟨after, rfl, rfl⟩
    exact takeBytes?_append before after

/-- A slice is what stands between two cuts. -/
theorem slice?_eq_some_iff {text piece : Text} {start stop : Nat} :
    slice? text start stop = some piece ↔ ∃ before after, text = before ++ piece ++ after ∧
      size before = start ∧ size before + size piece = stop := by
  constructor
  · intro cut
    rw [slice?] at cut
    split at cut
    · next ordered =>
        obtain ⟨rest, dropped, taken⟩ := Option.bind_eq_some_iff.mp cut
        obtain ⟨before, rfl, rfl⟩ := dropBytes?_eq_some_iff.mp dropped
        obtain ⟨after, rfl, size⟩ := takeBytes?_eq_some_iff.mp taken
        exact ⟨before, after, by simp, rfl, by omega⟩
    · contradiction
  · rintro ⟨before, after, rfl, rfl, rfl⟩
    exact slice?_append before piece after

theorem insertAt?_append (piece : Text) :
    insertAt? (before ++ after) (size before) piece = some (before ++ piece ++ after) := by
  simp only [insertAt?, takeBytes?_append, dropBytes?_append, Option.bind_eq_bind,
    Option.bind_some, Option.pure_def]

theorem exists_append_of_size_le {before after before' after' : Text}
    (same : before ++ after = before' ++ after') (shorter : size before ≤ size before') :
    ∃ middle, before' = before ++ middle ∧ after = middle ++ after' := by
  rcases List.append_eq_append_iff.mp same with found | ⟨middle, rfl, rfl⟩
  · exact found
  · cases middle with
    | nil => exact ⟨[], by simp, rfl⟩
    | cons c middle =>
        have longer := size_pos (List.cons_ne_nil c middle)
        rw [size_append] at shorter
        omega

theorem eq_of_append_eq_append {before after before' after' : Text}
    (same : before ++ after = before' ++ after') (size : size before = size before') :
    before = before' := by
  obtain ⟨middle, rfl, _⟩ := exists_append_of_size_le same (Nat.le_of_eq size)
  cases middle with
  | nil => exact (List.append_nil before).symm
  | cons c middle =>
      have longer := size_pos (List.cons_ne_nil c middle)
      rw [size_append] at size
      omega

namespace Boundary

variable {text : Text}

theorem of_size : text.Boundary text.size := ⟨text, [], by simp, rfl⟩

theorem le_size {offset : Nat} (boundary : text.Boundary offset) : offset ≤ text.size := by
  obtain ⟨before, after, rfl, rfl⟩ := boundary
  rw [size_append]
  exact Nat.le_add_right _ _

protected theorem max {first second : Nat} (firstIn : text.Boundary first)
    (secondIn : text.Boundary second) : text.Boundary (max first second) := by
  rcases Nat.le_total first second with le | ge
  · rwa [Nat.max_eq_right le]
  · rwa [Nat.max_eq_left ge]

/-- A cut that falls into a part of a text cuts the part. -/
theorem of_append {before middle after : Text} {offset : Nat}
    (boundary : (before ++ (middle ++ after)).Boundary offset) (behind : size before ≤ offset)
    (inside : offset ≤ size before + size middle) : middle.Boundary (offset - size before) := by
  obtain ⟨front, back, same, rfl⟩ := boundary
  obtain ⟨part, rfl, rest⟩ := exists_append_of_size_le same behind
  rw [size_append] at inside ⊢
  obtain ⟨others, rfl, _⟩ := exists_append_of_size_le rest.symm (by omega)
  exact ⟨part, others, rfl, (Nat.add_sub_cancel_left _ _).symm⟩

/-- Two cuts part a text in three. -/
theorem exists_parts {start stop : Nat} (first : text.Boundary start) (second : text.Boundary stop)
    (ordered : start ≤ stop) :
    ∃ before middle after, text = before ++ middle ++ after ∧ size before = start ∧
      size before + size middle = stop := by
  obtain ⟨before, rest, rfl, rfl⟩ := first
  obtain ⟨front, after, same, rfl⟩ := second
  obtain ⟨middle, rfl, rfl⟩ := exists_append_of_size_le same ordered
  exact ⟨before, middle, after, by simp, rfl, by simp⟩

end Boundary

theorem bytes_append : bytes (before ++ after) = bytes before ++ bytes after :=
  List.flatMap_append

theorem length_bytes (text : Text) : (bytes text).length = size text := by
  induction text with
  | nil => rfl
  | cons c text ih =>
      simp only [bytes] at ih
      simp only [bytes, List.flatMap_cons, List.length_append, String.length_utf8EncodeChar, size,
        ih]

end Bcpl.Text
