import Mathlib.Tactic.SplitIfs
import Bcpl.Text.Measure

/-!
No text takes less than no columns (`measure_nonneg`). A character that is drawn together with what
follows it can take a column back, but only one that the characters behind it have left over
(`Lead.spare`).
-/

namespace Bcpl.Text

/-- The columns that a character put in front may take back. -/
def Lead.spare : Lead → Int
  | .joinedIndicator | .joinedIndicators false => 1
  | .ligature .tifinaghJoined | .ligature .subscriptLetter => 1
  | _ => 0

theorem Lead.spare_nonneg (lead : Lead) : 0 ≤ lead.spare := by
  unfold spare
  split <;> decide

/-- A letter that can be drawn below another takes a column where it is not. -/
theorem charWidth_pos_of_isSubscriptLetter {c : Char} (letter : isSubscriptLetter c = true) :
    1 ≤ charWidth c := by
  have khmer : c.toNat ∈ List.range' 0x1780 0x30 := by
    simp only [isSubscriptLetter, inRanges, List.any_cons, List.any_nil, Bool.or_false,
      Bool.or_eq_true, Bool.and_eq_true, decide_eq_true_eq] at letter
    rw [List.mem_range'_1]
    omega
  have spaced : ∀ code ∈ List.range' 0x1780 0x30, zeroWidthRanges.any (fun range =>
      decide (range.1 ≤ code) && decide (code ≤ range.2)) = false := by
    decide +kernel
  have wide : inRanges zeroWidthRanges c = false := spaced _ khmer
  rw [charWidth, wide]
  simp only [Bool.false_eq_true, if_false]
  split_ifs <;> decide

namespace LigatureEnd

variable {c : Char} {ending : LigatureEnd} {columns : Int} {rest : Option LigatureEnd}

theorem spare_ofChar? (found : ofChar? c = some ending) :
    (Lead.ligature ending).spare ≤ charWidth c := by
  unfold ofChar? at found
  by_cases letter : isSubscriptLetter c = true
  · have wide : (1 : Int) ≤ charWidth c :=
      Int.ofNat_le.mpr (charWidth_pos_of_isSubscriptLetter letter)
    split_ifs at found <;> cases found <;> simp only [Lead.spare] <;> omega
  · rw [if_neg letter] at found
    split_ifs at found <;> cases found <;> exact Int.natCast_nonneg _

theorem spare_behindJoiner (ending : LigatureEnd) :
    (Lead.ligature ending.behindJoiner).spare = (Lead.ligature ending).spare := by
  cases ending <;> rfl

theorem spare_precede? (found : ending.precede? c = some (columns, rest)) :
    (rest.elim Lead.plain .ligature).spare ≤ (Lead.ligature ending).spare + columns := by
  unfold precede? at found
  split_ifs at found
  · cases found
    simp [spare_behindJoiner]
  · cases found
    simp
  · unfold extend? at found
    split at found <;> split_ifs at found <;> cases found <;> simp [Lead.spare]

end LigatureEnd

namespace Lead

variable {lead next : Lead} {c : Char} {columns : Int}

theorem spare_ofChar (c : Char) : (ofChar c).spare ≤ charWidth c := by
  have width := Int.natCast_nonneg (charWidth c)
  unfold ofChar
  split_ifs
  · exact width
  · exact width
  · exact width
  · cases found : LigatureEnd.ofChar? c with
    | none => exact width
    | some ending => exact LigatureEnd.spare_ofChar? found

theorem spare_precedeTags? {letters digits : Nat} (found : precedeTags? letters digits c = some next) :
    next.spare = 0 := by
  unfold precedeTags? at found
  split_ifs at found <;> cases found <;> rfl

theorem spare_join? (found : lead.join? c = some (columns, next)) :
    next.spare ≤ lead.spare + columns := by
  cases lead with
  | ligature ending =>
      obtain ⟨⟨columns, rest⟩, joined, same⟩ := Option.map_eq_some_iff.mp found
      cases same
      exact LigatureEnd.spare_precede? joined
  | tagLetters count | tagDigits count =>
      obtain ⟨tags, joined, same⟩ := Option.map_eq_some_iff.mp found
      cases same
      rw [spare_precedeTags? joined]
      exact Int.le_refl 0
  | plain | lineFeed | joinedKeycap => contradiction
  | joinedIndicators even =>
      simp only [join?] at found
      split_ifs at found <;> cases found <;> cases even <;> simp_all [spare]
  | emoji | modifier | indicator | indicators | joinedEmoji | joinedIndicator =>
      simp only [join?] at found
      split_ifs at found <;> cases found <;> decide

theorem spare_select (lead : Lead) (selector : Presentation) :
    (lead.select selector).lead.spare ≤ lead.spare := by
  unfold select
  split
  · exact Int.le_refl _
  · exact lead.spare_nonneg

/-- A character in front of a text adds what it leaves over. -/
theorem spare_precede (lead : Lead) (c : Char) :
    (lead.precede c).2.lead.spare ≤ lead.spare + (lead.precede c).1 := by
  have nonneg := lead.spare_nonneg
  unfold precede
  split_ifs
  · exact Int.le_add_one nonneg
  · exact Int.add_nonneg nonneg (Int.le_refl 0)
  · exact Int.le_add_one nonneg
  · simpa using lead.spare_select .emoji
  · simpa using lead.spare_select .text
  · split
    · next joined => exact spare_join? joined
    · have width := spare_ofChar c
      simp only
      omega

end Lead

theorem Front.spare_precede (front : Front) (c : Char) :
    (front.precede c).2.lead.spare ≤ front.lead.spare + (front.precede c).1 := by
  have nonneg := front.lead.spare_nonneg
  unfold precede
  split
  · split_ifs
    · exact Int.add_nonneg nonneg (by decide)
    · exact Int.add_nonneg nonneg (by decide)
    · have other := Lead.plain.spare_precede c
      have none : Lead.plain.spare = 0 := rfl
      omega
    · exact front.lead.spare_precede c
  · split_ifs
    · exact Int.add_nonneg nonneg (by decide)
    · exact front.lead.spare_precede c
  · exact front.lead.spare_precede c

/-- A space takes one column, whatever stands behind it. -/
theorem Front.precede_space (front : Front) : front.precede ' ' = (1, ⟨.plain, none⟩) := by
  have alone (lead : Lead) : lead.precede ' ' = (1, ⟨.plain, none⟩) := by simp [Lead.precede]
  unfold precede
  split <;> simp [alone, show isVariant ' ' = false by decide, show isTextVariant ' ' = false by decide]

theorem Front.precede_tab (front : Front) : front.precede '\t' = (1, ⟨.plain, none⟩) := by
  have alone (lead : Lead) : lead.precede '\t' = (1, ⟨.plain, none⟩) := by simp [Lead.precede]
  unfold precede
  split <;> simp [alone, show isVariant '\t' = false by decide, show isTextVariant '\t' = false by decide]

theorem spare_le_measure (text : Text) : (measure text).2.lead.spare ≤ (measure text).1 := by
  induction text with
  | nil => exact Int.le_refl _
  | cons c rest ih =>
      have step := (measure rest).2.spare_precede c
      simp only [measure]
      omega

theorem measure_nonneg (text : Text) : 0 ≤ (measure text).1 :=
  Int.le_trans (Lead.spare_nonneg _) (spare_le_measure text)

theorem width_eq (text : Text) : (width text : Int) = (measure text).1 :=
  Int.toNat_of_nonneg (measure_nonneg text)

/-- Characters of one byte take a column each, whatever stands beside them. -/
theorem measure_of_ascii {text : Text} (ascii : ∀ c ∈ text, c.toNat < 0x80 ∧ c ≠ '\n') :
    measure text = ((text.length : Int), ⟨.plain, none⟩) := by
  induction text with
  | nil => rfl
  | cons c rest ih =>
      obtain ⟨⟨small, inLine⟩, others⟩ := List.forall_mem_cons.mp ascii
      rw [measure, ih others]
      simp [Front.precede, Lead.precede, small, inLine]

theorem ascii_of_mem_replicate {count : Nat} {c : Char} (member : c ∈ List.replicate count ' ') :
    c.toNat < 0x80 ∧ c ≠ '\n' := by
  rw [List.eq_of_mem_replicate member]
  decide

theorem width_of_ascii {text : Text} (ascii : ∀ c ∈ text, c.toNat < 0x80 ∧ c ≠ '\n') :
    width text = text.length := by
  rw [width, measure_of_ascii ascii]
  rfl

end Bcpl.Text
