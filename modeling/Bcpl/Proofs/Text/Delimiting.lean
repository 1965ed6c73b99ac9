import Bcpl.Proofs.Text.Decimals
import Bcpl.Proofs.Text.Unescaping

/-!
Writings that show where they end. What is written for a value is told from all that is written for
other values, with any text behind it (`Determines`). Writings of this kind are put together in
pairs and rows, and quoted texts and decimal numbers are of this kind.
-/

namespace Bcpl.Text

/-- The text written for a value tells the value, and where it ends. What stands behind it is any
text that may follow. -/
def Determines {α : Type} (follows : Text → Prop) (write : α → Text) (value : α) : Prop :=
  ∀ ⦃other : α⦄ ⦃rest rest' : Text⦄, follows rest → follows rest' →
    write value ++ rest = write other ++ rest' → value = other ∧ rest = rest'

/-- A text that does not go on with a number in front of it. -/
def EndsNumber (rest : Text) : Prop := ∀ c ∈ rest.head?, c.isDigit = false

theorem EndsNumber.nil : EndsNumber [] := by simp [EndsNumber]

theorem EndsNumber.cons {c : Char} (mark : c.isDigit = false) (rest : Text) :
    EndsNumber (c :: rest) := by
  simpa [EndsNumber] using mark

namespace Determines

variable {α β : Type} {follows inner : Text → Prop} {write : α → Text}

theorem comap (f : β → α) {value : β} (determines : Determines follows write (f value))
    (injective : ∀ other, f value = f other → value = other) :
    Determines follows (fun value => write (f value)) value := by
  intro other rest rest' ends ends' same
  obtain ⟨told, behind⟩ := determines ends ends' same
  exact ⟨injective other told, behind⟩

theorem prepend {value : α} (determines : Determines follows write value) (before : Text) :
    Determines follows (fun value => before ++ write value) value := by
  intro other rest rest' ends ends' same
  simp only [List.append_assoc, List.append_cancel_left_eq] at same
  exact determines ends ends' same

theorem append {value : α} (determines : Determines inner write value) (after : Text)
    (behind : ∀ rest, follows rest → inner (after ++ rest)) :
    Determines follows (fun value => write value ++ after) value := by
  intro other rest rest' ends ends' same
  simp only [List.append_assoc] at same
  obtain ⟨told, left⟩ := determines (behind rest ends) (behind rest' ends') same
  exact ⟨told, List.append_cancel_left left⟩

theorem pair {write' : β → Text} {first : α} {second : β}
    (determines : Determines inner write first) (determines' : Determines follows write' second)
    (behind : ∀ value rest, follows rest → inner (write' value ++ rest)) :
    Determines follows (fun values : α × β => write values.1 ++ write' values.2)
      (first, second) := by
  rintro ⟨other, other'⟩ rest rest' ends ends' same
  simp only [List.append_assoc] at same
  obtain ⟨rfl, left⟩ := determines (behind _ _ ends) (behind _ _ ends') same
  obtain ⟨rfl, rfl⟩ := determines' ends ends' left
  exact ⟨rfl, rfl⟩

/-- A list is told if all writings of lists with a first value are apart from that of none, and
the first value and the values behind it are told. -/
theorem list {write : List α → Text} {values : List α}
    (apart : ∀ value values rest rest', write [] ++ rest ≠ write (value :: values) ++ rest')
    (determines : ∀ value behind, values = value :: behind →
      Determines follows (fun parts : α × List α => write (parts.1 :: parts.2)) (value, behind)) :
    Determines follows write values := by
  intro others rest rest' ends ends' same
  cases values with
  | nil =>
      cases others with
      | nil => exact ⟨rfl, List.append_cancel_left same⟩
      | cons other others => exact absurd same (apart other others rest rest')
  | cons value behind =>
      cases others with
      | nil => exact absurd same.symm (apart value behind rest' rest)
      | cons other others =>
          obtain ⟨told, left⟩ : (value, behind) = (other, others) ∧ rest = rest' :=
            determines value behind rfl ends ends' same
          obtain ⟨rfl, rfl⟩ := Prod.mk.inj told
          exact ⟨rfl, left⟩

section Row

variable {closing : Text} (goesOn : ∀ value rest, inner (write value ++ rest))
  (stops : ∀ rest, follows rest → inner (closing ++ rest))
include goesOn stops

theorem behind_row (values : List α) (rest : Text) (ends : follows rest) :
    inner (values.flatMap write ++ closing ++ rest) := by
  rw [List.append_assoc]
  cases values with
  | nil => exact stops rest ends
  | cons value values =>
      rw [List.flatMap_cons, List.append_assoc]
      exact goesOn value _

/-- A row with a text at its end that no element begins with. -/
theorem row (determines : ∀ value, Determines inner write value)
    (apart : ∀ value rest rest', write value ++ rest ≠ closing ++ rest') (values : List α) :
    Determines follows (fun values => values.flatMap write ++ closing) values := by
  have stopped (value : α) (values : List α) (rest rest' : Text) :
      ([] : List α).flatMap write ++ closing ++ rest ≠
        (value :: values).flatMap write ++ closing ++ rest' := by
    simp only [List.flatMap_nil, List.nil_append, List.flatMap_cons, List.append_assoc]
    exact (apart value _ _).symm
  induction values with
  | nil => exact list stopped fun _ _ filled => absurd filled.symm (List.cons_ne_nil _ _)
  | cons value values ih =>
      refine list stopped ?_
      rintro value behind ⟨⟩
      simp only [List.flatMap_cons, List.append_assoc]
      exact (determines value).pair ih (behind_row goesOn stops)

end Row

/-- A list between two marks, with a mark between its values. -/
theorem separated {writeAll : List α → Text} (opening between closing : Text)
    (determines : ∀ value, Determines inner write value)
    (written : ∀ value values, writeAll (value :: values) =
      opening ++ (write value ++ ((values.flatMap fun value => between ++ write value) ++ closing)))
    (goesOn : ∀ rest, inner (between ++ rest)) (stops : ∀ rest, inner (closing ++ rest))
    (apart : ∀ rest rest', between ++ rest ≠ closing ++ rest')
    (filled : ∀ value values rest rest', writeAll [] ++ rest ≠ writeAll (value :: values) ++ rest')
    (values : List α) : Determines follows writeAll values := by
  have onward (value : α) (rest : Text) : inner (between ++ write value ++ rest) := by
    rw [List.append_assoc]
    exact goesOn _
  have behind : ∀ values, Determines follows
      (fun values : List α => (values.flatMap fun value => between ++ write value) ++ closing)
      values := by
    refine row onward (fun rest _ => stops rest)
      (fun value => (determines value).prepend between) ?_
    intro value rest rest'
    rw [List.append_assoc]
    exact apart _ _
  refine list filled fun value values _ => ?_
  simp only [written]
  exact ((determines value).pair (behind values)
    (behind_row onward fun rest _ => stops rest)).prepend opening

end Determines

section Quoted

theorem Restores.unescape?_eq {written : Text} {c : Char} (restores : Restores written c) :
    unescape? written = some [c] := by
  simpa [unescape?] using restores []

theorem eq_nil_of_unescape? {text : Text} (read : unescape? text = some []) : text = [] := by
  revert read
  fun_cases unescape? text <;> simp [Option.bind_eq_some_iff]

/-- Two characters whose writings agree, each in front of some text, are the same. One of the two
writings is the front of the other one, and what is left over of it is read as nothing. -/
theorem determines_of_restores {written : Char → Text} (restores : ∀ c, Restores (written c) c)
    (c : Char) : Determines (fun _ => True) written c := by
  have cut {c d : Char} {left : Text} (longer : written d = written c ++ left) :
      c = d ∧ left = [] := by
    have read := restores c left
    rw [← longer, (restores d).unescape?_eq, eq_comm, Option.map_eq_some_iff] at read
    obtain ⟨following, read, same⟩ := read
    obtain ⟨rfl, rfl⟩ := List.cons.inj same
    exact ⟨rfl, eq_nil_of_unescape? read⟩
  intro d rest rest' _ _ same
  obtain ⟨left, longer, rfl⟩ | ⟨left, longer, rfl⟩ := List.append_eq_append_iff.mp same
  · obtain ⟨rfl, rfl⟩ := cut longer
    exact ⟨rfl, rfl⟩
  · obtain ⟨rfl, rfl⟩ := cut longer
    exact ⟨rfl, rfl⟩

theorem restores_quotedChar (c : Char) : Restores (quotedChar c) c := by
  unfold quotedChar
  split
  · next quote => exact restores_copied (by rw [quote]; decide)
  · exact restores_escapeFirst c

/-- No quote ends a quoted text too early. -/
theorem quotedChar_append_ne (c : Char) (rest rest' : Text) :
    quotedChar c ++ rest ≠ ['"'] ++ rest' := by
  intro same
  have alone := (restores_quotedChar c).unescape?_eq
  cases written : quotedChar c with
  | nil => simp [written, unescape?] at alone
  | cons first following =>
      obtain rfl : first = '"' := by
        rw [written] at same
        exact (List.cons.inj same).1
      have read := restores_copied (by decide : '"' ≠ '\\') following
      rw [List.singleton_append, ← written, alone, eq_comm, Option.map_eq_some_iff] at read
      obtain ⟨_, _, same⟩ := read
      obtain rfl : '"' = c := (List.cons.inj same).1
      exact absurd (List.cons.inj written).1 (by decide)

theorem determines_quoted (follows : Text → Prop) (text : Text) :
    Determines follows quoted text := by
  have row : Determines follows (fun text => text.flatMap quotedChar ++ ['"']) text :=
    Determines.row (fun _ _ => trivial) (fun _ _ => trivial)
      (determines_of_restores restores_quotedChar) quotedChar_append_ne text
  exact row.prepend ['"']

end Quoted

section Numbers

theorem decimal_append_ne (n : Nat) {c : Char} (mark : c.isDigit = false) (rest rest' : Text) :
    decimal n ++ rest ≠ c :: rest' := by
  intro same
  obtain ⟨digit, digits, written⟩ : ∃ digit digits, decimal n = digit :: digits :=
    List.exists_cons_of_ne_nil (decimal_ne_nil n)
  rw [written] at same
  obtain rfl : digit = c := (List.cons.inj same).1
  have isDigit : digit.isDigit := isDigit_of_mem_decimal (written ▸ List.mem_cons_self)
  rw [isDigit] at mark
  contradiction

theorem determines_decimal (n : Nat) : Determines EndsNumber decimal n := by
  have digits (n : Nat) {rest : Text} (ends : EndsNumber rest) :
      (decimal n ++ rest).takeWhile Char.isDigit = decimal n := by
    have behind : rest.takeWhile Char.isDigit = [] := by
      cases rest with
      | nil => rfl
      | cons c rest => rw [List.takeWhile_cons_of_neg (by simpa using ends c rfl)]
    rw [List.takeWhile_append_of_pos fun c => isDigit_of_mem_decimal, behind, List.append_nil]
  intro other rest rest' ends ends' same
  have numbers := congrArg (List.takeWhile Char.isDigit) same
  rw [digits n ends, digits other ends'] at numbers
  obtain rfl := decimal_injective numbers
  exact ⟨rfl, List.append_cancel_left same⟩

end Numbers

end Bcpl.Text
