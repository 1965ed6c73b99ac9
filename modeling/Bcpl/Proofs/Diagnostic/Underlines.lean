import Bcpl.Diagnostic.Row
import Bcpl.Proofs.Checked
import Bcpl.Proofs.Results
import Bcpl.Proofs.Source.LineTable

/-!
Underlines below one line. A region that is cut out of a text between two characters is cut out of
its line in the same way, so it can be underlined (`exists_parts_of_boundary`), unless it starts too
far to the right.
-/

namespace Bcpl

namespace Line

theorem exists_content_eq (line : Line) :
    ∃ ending, line.content = line.shown ++ ending ∧ (ending = [] ∨ ending = ['\r']) := by
  unfold shown
  split
  · next returns =>
      obtain ⟨front, same⟩ := List.getLast?_eq_some_iff.mp returns
      exact ⟨['\r'], by rw [same, List.dropLast_concat], .inr rfl⟩
  · exact ⟨[], by simp, .inl rfl⟩

/-- A place on a line as it is shown. What lies outside is moved to the nearer end. -/
def clamp (line : Line) (byte : Nat) : Nat := min (byte - line.start) line.shown.size

theorem clamp_le (line : Line) (byte : Nat) : line.clamp byte ≤ line.shown.size :=
  Nat.min_le_right _ _

theorem clamp_mono (line : Line) {first second : Nat} (ordered : first ≤ second) :
    line.clamp first ≤ line.clamp second := by
  simp only [clamp]
  omega

theorem clamp_eq_sub (line : Line) (byte : Nat) :
    min byte (line.start + line.shown.size) - line.start = line.clamp byte := by
  rw [clamp, ← Nat.sub_min_sub_right, Nat.add_sub_cancel_left]

theorem start_sub (line : Line) (start : Nat) :
    max line.start (min start (line.start + line.shown.size)) - line.start = line.clamp start := by
  rw [← Nat.sub_max_sub_right, Nat.sub_self, Nat.zero_max, line.clamp_eq_sub]

theorem stop_sub (line : Line) (start stop : Nat) :
    max (max line.start (min start (line.start + line.shown.size)))
        (min stop (line.start + line.shown.size)) - line.start =
      max (line.clamp start) (line.clamp stop) := by
  rw [← Nat.sub_max_sub_right, line.start_sub, line.clamp_eq_sub]

theorem Stands.boundary {text : Text} {line : Line} (stands : line.Stands text) {byte : Nat}
    (boundary : text.Boundary byte) : line.shown.Boundary (line.clamp byte) := by
  obtain ⟨before, after, rfl, start⟩ := stands
  obtain ⟨ending, whole, _⟩ := line.exists_content_eq
  rw [clamp, ← start]
  rcases Nat.lt_or_ge byte before.size with left | inside
  · rw [Nat.sub_eq_zero_of_le (Nat.le_of_lt left), Nat.zero_min]
    exact ⟨[], line.shown, rfl, rfl⟩
  · rcases Nat.le_total (byte - before.size) line.shown.size with near | far
    · rw [Nat.min_eq_left near]
      rw [whole, List.append_assoc] at boundary
      exact boundary.of_append inside (by omega)
    · rw [Nat.min_eq_right far]
      exact .of_size

theorem Stands.clamp_of_size_le {text : Text} {line : Line} (stands : line.Stands text)
    {byte : Nat} (beyond : text.size ≤ byte) : line.clamp byte = line.shown.size := by
  obtain ⟨before, after, rfl, start⟩ := stands
  obtain ⟨ending, whole, _⟩ := line.exists_content_eq
  have size := congrArg Text.size whole
  simp only [Text.size_append] at size beyond
  rw [clamp]
  omega

theorem size_take_shown {line : Line} {head tail : Text} (split : line.content = head ++ tail) :
    Text.size (line.shown.take head.length) = min head.size line.shown.size := by
  obtain ⟨ending, whole, _⟩ := line.exists_content_eq
  rw [whole] at split
  rcases List.append_eq_append_iff.mp split with ⟨part, longer, _⟩ | ⟨part, longer, _⟩
  · rw [longer, List.take_of_length_le (by simp), Text.size_append]
    omega
  · rw [longer, List.take_left, Text.size_append]
    omega

end Line

/-- A region moved into a line as it is shown. -/
def Span.clampTo (span : Span) (line : Line) : Span :=
  let stop := line.start + line.shown.size
  let start := max line.start (min span.start stop)
  ⟨start, max start (min span.stop stop)⟩

theorem Span.start_clampTo (span : Span) (line : Line) :
    (span.clampTo line).start = line.start + line.clamp span.start := by
  rw [← line.start_sub, Nat.add_sub_cancel' (Nat.le_max_left _ _)]
  rfl

theorem Span.stop_clampTo (span : Span) (line : Line) :
    (span.clampTo line).stop =
      line.start + max (line.clamp span.start) (line.clamp span.stop) := by
  rw [← line.stop_sub, Nat.add_sub_cancel' (Nat.le_trans (Nat.le_max_left _ _) (Nat.le_max_left _ _))]
  rfl

theorem Span.clampTo_inside (span : Span) (line : Line) :
    line.start ≤ (span.clampTo line).start ∧
      (span.clampTo line).start ≤ (span.clampTo line).stop ∧
      (span.clampTo line).stop ≤ line.start + line.shown.size := by
  rw [span.start_clampTo, span.stop_clampTo]
  simp only [Line.clamp]
  omega

/-- A line of a text is cut where the text is. -/
theorem Line.Stands.boundary_iff {text : Text} {line : Line} (stands : line.Stands text)
    {offset : Nat} (inside : offset ≤ line.shown.size) :
    text.Boundary (line.start + offset) ↔ line.shown.Boundary offset := by
  constructor
  · intro boundary
    have moved := stands.boundary boundary
    rwa [Line.clamp, Nat.add_sub_cancel_left, Nat.min_eq_left inside] at moved
  · rintro ⟨front, back, parts, rfl⟩
    obtain ⟨before, after, rfl, start⟩ := stands
    obtain ⟨ending, whole, _⟩ := line.exists_content_eq
    refine ⟨before ++ front, back ++ ending ++ after, ?_, by rw [Text.size_append, start]⟩
    simp only [whole, parts, List.append_assoc]

theorem Line.Stands.stop_le {text : Text} {line : Line} (stands : line.Stands text) :
    line.start + line.shown.size ≤ text.size := by
  obtain ⟨before, after, rfl, start⟩ := stands
  obtain ⟨ending, whole, _⟩ := line.exists_content_eq
  have size := congrArg Text.size whole
  simp only [Text.size_append] at size ⊢
  omega

namespace Placed

variable {table : LineTable} {line : Line} {placed : Placed}

theorem boundaries_iff {text : Text} (stands : line.Stands text) (span : Span) :
    text.Boundary (span.clampTo line).start ∧ text.Boundary (span.clampTo line).stop ↔
      line.shown.Boundary (line.clamp span.start) ∧
        line.shown.Boundary (max (line.clamp span.start) (line.clamp span.stop)) := by
  rw [span.start_clampTo, span.stop_clampTo, stands.boundary_iff (line.clamp_le _),
    stands.boundary_iff (Nat.max_le.mpr ⟨line.clamp_le _, line.clamp_le _⟩)]

/-- A region that is not empty has a last byte. -/
theorem continues_eq (table : LineTable) (placed : Placed) :
    placed.continues table = .ok (!placed.snippet.span.isEmpty &&
      (table.index? (placed.snippet.span.stop - 1)).any (placed.line < ·)) := by
  rw [continues]
  cases empty : placed.snippet.span.isEmpty with
  | true => rfl
  | false =>
      have filled : 1 ≤ placed.snippet.span.stop := by
        simp only [Span.isEmpty, Span.length, beq_eq_false_iff_ne] at empty
        omega
      rw [Checked.subtract_of_le filled]
      rfl

/-- The mark of a region, given what its line has in front of it and what it covers of the line. -/
def markFor (table : LineTable) (placed : Placed) (before marked : Text) : Underline where
  kind := placed.snippet.kind
  indent := columns before
  length := max 1 (columns marked)
  continues := !placed.snippet.span.isEmpty &&
    (table.index? (placed.snippet.span.stop - 1)).any (placed.line < ·)
  label := placed.snippet.label

/-- Moving a region into a line never fails, so the line is cut twice. -/
theorem underline_eq_bind (table : LineTable) (line : Line) (placed : Placed) :
    placed.underline table line =
      let within := placed.snippet.span.clampTo line
      Checked.slice table.text line.start within.start >>= fun before =>
        Checked.slice table.text within.start within.stop >>= fun marked =>
          if columns before ≤ maxIndent then .ok (placed.markFor table before marked)
          else .error .wideIndent := by
  have first : Checked.clamp placed.snippet.span.start line.start (line.start + line.shown.size) =
      .ok (placed.snippet.span.clampTo line).start := Checked.clamp_of_le (Nat.le_add_right _ _)
  have second : Checked.clamp placed.snippet.span.stop (placed.snippet.span.clampTo line).start
      (line.start + line.shown.size) = .ok (placed.snippet.span.clampTo line).stop := by
    refine Checked.clamp_of_le ?_
    rw [Span.start_clampTo]
    exact Nat.add_le_add_left (line.clamp_le _) _
  rw [underline, first]
  change (Checked.clamp _ (placed.snippet.span.clampTo line).start _ >>= _) = _
  rw [second, continues_eq]
  rfl

section Parts

variable {indent marked rest : Text} (stands : line.Stands table.text)
  (parts : line.shown = indent ++ marked ++ rest)
  (start : indent.size = line.clamp placed.snippet.span.start)
include stands parts start

/-- The part of a line in front of a region is cut out of the text. -/
theorem slice?_indent :
    table.text.slice? line.start (placed.snippet.span.clampTo line).start = some indent := by
  obtain ⟨front, after, whole, size⟩ := stands
  obtain ⟨ending, content, _⟩ := line.exists_content_eq
  have split : table.text = front ++ indent ++ (marked ++ rest ++ ending ++ after) := by
    rw [whole, content, parts]
    simp only [List.append_assoc]
  rw [Span.start_clampTo, ← start, ← size, split]
  exact Text.slice?_append front indent _

/-- A region is underlined from where it starts on its line to where it stops, unless it starts too
far to the right. -/
theorem underline_eq
    (stop : indent.size + marked.size = max indent.size (line.clamp placed.snippet.span.stop)) :
    placed.underline table line =
      if columns indent ≤ maxIndent then .ok (placed.markFor table indent marked)
      else .error .wideIndent := by
  have before := slice?_indent stands parts start
  have within : table.text.slice? (placed.snippet.span.clampTo line).start
      (placed.snippet.span.clampTo line).stop = some marked := by
    obtain ⟨front, after, whole, size⟩ := stands
    obtain ⟨ending, content, _⟩ := line.exists_content_eq
    have split : table.text = front ++ indent ++ marked ++ (rest ++ ending ++ after) := by
      rw [whole, content, parts]
      simp only [List.append_assoc]
    rw [Span.start_clampTo, Span.stop_clampTo, ← start, ← stop, ← size, ← Nat.add_assoc,
      ← Text.size_append, split]
    exact Text.slice?_append (front ++ indent) marked _
  rw [underline_eq_bind]
  simp only [Checked.slice_eq_ok before, Checked.slice_eq_ok within]
  rfl

end Parts

theorem label_and_continues_of_underline {mark : Underline}
    (underlined : placed.underline table line = .ok mark) :
    mark.label = placed.snippet.label ∧
      mark.continues = (!placed.snippet.span.isEmpty &&
        (table.index? (placed.snippet.span.stop - 1)).any (placed.line < ·)) := by
  rw [underline_eq_bind] at underlined
  obtain ⟨before, _, underlined⟩ := bind_eq_ok_iff.mp underlined
  obtain ⟨marked, _, underlined⟩ := bind_eq_ok_iff.mp underlined
  split at underlined
  · cases underlined
    exact ⟨rfl, rfl⟩
  · contradiction

/-- A region that starts and stops between two characters of its line parts the line in three. -/
theorem exists_parts_of_boundary
    (startIn : line.shown.Boundary (line.clamp placed.snippet.span.start))
    (stopIn : line.shown.Boundary
      (max (line.clamp placed.snippet.span.start) (line.clamp placed.snippet.span.stop))) :
    ∃ indent marked rest, line.shown = indent ++ marked ++ rest ∧
      indent.size = line.clamp placed.snippet.span.start ∧
      indent.size + marked.size = max indent.size (line.clamp placed.snippet.span.stop) := by
  obtain ⟨indent, marked, rest, parts, start, stop⟩ :=
    startIn.exists_parts stopIn (Nat.le_max_left _ _)
  exact ⟨indent, marked, rest, parts, start, by rw [stop, start]⟩

/-- No other region can be underlined. -/
theorem underline_eq_splitCharacter (stands : line.Stands table.text)
    (inside : ¬(line.shown.Boundary (line.clamp placed.snippet.span.start) ∧
      line.shown.Boundary
        (max (line.clamp placed.snippet.span.start) (line.clamp placed.snippet.span.stop)))) :
    placed.underline table line = .error .splitCharacter := by
  let within := placed.snippet.span.clampTo line
  have ordered : line.start ≤ within.start ∧ within.start ≤ within.stop ∧
      within.stop ≤ line.start + line.shown.size := placed.snippet.span.clampTo_inside line
  have shown := stands.stop_le
  rw [← boundaries_iff stands] at inside
  rw [underline_eq_bind]
  simp only
  rw [Checked.slice_of_inside ordered.1 (by omega), Checked.slice_of_inside ordered.2.1 (by omega)]
  cases before : table.text.slice? line.start within.start with
  | none => rfl
  | some indent =>
      cases marked : table.text.slice? within.start within.stop with
      | none => rfl
      | some piece =>
          obtain ⟨front, rest, parts, start, stop⟩ := Text.slice?_eq_some_iff.mp marked
          refine absurd ⟨⟨front, piece ++ rest, by rw [parts, List.append_assoc], start⟩, ?_⟩ inside
          exact ⟨front ++ piece, rest, parts, by rw [Text.size_append, stop]⟩

/-- A region that starts behind the beginning of a line is underlined there if it does not start
too far to the right. -/
theorem exists_underline {head tail : Text} (stands : line.Stands table.text)
    (split : line.content = head ++ tail)
    (startAt : placed.snippet.span.start = line.start + head.size)
    (startIn : table.text.Boundary placed.snippet.span.start)
    (stopIn : table.text.Boundary placed.snippet.span.stop) :
    ∃ mark : Underline, mark.label = placed.snippet.label ∧ placed.underline table line =
      if columns (line.shown.take head.length) ≤ maxIndent then .ok mark
      else .error .wideIndent := by
  have startOn := stands.boundary startIn
  obtain ⟨indent, marked, rest, parts, start, stop⟩ :=
    exists_parts_of_boundary startOn (startOn.max (stands.boundary stopIn))
  have size : indent.size = Text.size (line.shown.take head.length) := by
    rw [start, Line.size_take_shown split, Line.clamp, startAt, Nat.add_sub_cancel_left]
  have same : indent = line.shown.take head.length := by
    apply Text.eq_of_append_eq_append _ size
    · exact marked ++ rest
    · exact line.shown.drop head.length
    · rw [List.take_append_drop, parts, List.append_assoc]
  rw [underline_eq stands parts start stop, same]
  exact ⟨_, rfl, rfl⟩

end Placed

end Bcpl
