import Bcpl.Proofs.Diagnostic.Faults
import Bcpl.Proofs.Diagnostic.SingleRegion
import Bcpl.Proofs.Source.Coordinates

/-!
The mark behind the underline of a region that goes on behind its first line. It is drawn for the
regions that cover a line feed and a byte behind it (`Span.GoesOnIn`), unless they stop too far behind
the end of the text (`Diagnostic.draw_marks_continued`).
-/

namespace Bcpl

theorem count_take_lt_iff {α : Type} [BEq α] [LawfulBEq α] {l : List α} {first second : Nat}
    (ordered : first ≤ second) (value : α) :
    (l.take first).count value < (l.take second).count value ↔
      ∃ place, first ≤ place ∧ place < second ∧ l[place]? = some value := by
  obtain ⟨length, rfl⟩ := Nat.exists_eq_add_of_le ordered
  rw [List.take_add, List.count_append, Nat.lt_add_right_iff_pos, List.count_pos_iff,
    List.mem_iff_getElem?]
  constructor
  · rintro ⟨offset, found⟩
    rw [List.getElem?_take] at found
    split at found
    · next near =>
        rw [List.getElem?_drop] at found
        exact ⟨first + offset, Nat.le_add_right _ _, Nat.add_lt_add_left near first, found⟩
    · contradiction
  · rintro ⟨place, reached, before, found⟩
    obtain ⟨offset, rfl⟩ := Nat.exists_eq_add_of_le reached
    have near : offset < length := Nat.lt_of_add_lt_add_left before
    exact ⟨offset, by rw [List.getElem?_take_of_lt near, List.getElem?_drop, found]⟩

/-- A region of a text goes on behind the line it starts on if it has a line feed in it that is not
its last byte. A region that stops more than one byte behind the end of the text is not counted. -/
def Span.GoesOnIn (span : Span) (text : Text) : Prop :=
  span.start < span.stop ∧ span.stop ≤ text.size + 1 ∧
    ∃ offset, span.start ≤ offset ∧ offset + 1 < span.stop ∧ text.bytes[offset]? = some 0x0a

namespace Span

variable {span : Span} {text : Text} {line : Nat}

theorem isEmpty_eq_false_iff : span.isEmpty = false ↔ span.start < span.stop := by
  simp only [isEmpty, length, beq_eq_false_iff_ne]
  omega

theorem goesOnIn_iff (found : (LineTable.ofText text).index? span.start = some line) :
    span.GoesOnIn text ↔ span.isEmpty = false ∧
      ∃ last, (LineTable.ofText text).index? (span.stop - 1) = some last ∧ line < last := by
  have started : (text.bytes.take span.start).count 0x0a = line := by
    have inside := (LineTable.index?_eq_some_iff.mp found).1
    change span.start ≤ text.size at inside
    rw [LineTable.index?_eq, if_pos inside] at found
    exact Option.some.inj found
  rw [isEmpty_eq_false_iff, GoesOnIn]
  refine and_congr_right fun filled => ?_
  -- Line feeds are counted up to the last byte of the region, so that byte does not count.
  have near (offset : Nat) : offset + 1 < span.stop ↔ offset < span.stop - 1 := by omega
  have within : span.stop ≤ text.size + 1 ↔ span.stop - 1 ≤ text.size := by omega
  have counted := count_take_lt_iff (l := text.bytes) (Nat.le_sub_one_of_lt filled) 0x0a
  simp only [near, within, ← counted, started, LineTable.index?_eq, Option.ite_none_right_eq_some,
    Option.some.injEq]
  constructor
  · rintro ⟨inside, later⟩
    exact ⟨_, ⟨inside, rfl⟩, later⟩
  · rintro ⟨_, ⟨inside, rfl⟩, later⟩
    exact ⟨inside, later⟩

/-- A region that stops with the line it starts on does not go on. -/
theorem not_goesOnIn_of_stop (found : (LineTable.ofText text).index? span.start = some line)
    (stops : (LineTable.ofText text).start? (line + 1) = some span.stop) : ¬span.GoesOnIn text := by
  rintro ⟨_, _, offset, reached, before, newline⟩
  obtain ⟨inside, _⟩ := List.getElem?_eq_some_iff.mp newline
  rw [Text.length_bytes] at inside
  obtain ⟨index, _, foundNewline, _⟩ := LineTable.exists_position (Nat.le_of_lt inside)
  have behind := LineTable.start?_of_newline newline foundNewline
  have later := LineTable.index?_mono reached found foundNewline
  rcases Nat.lt_or_eq_of_le later with above | rfl
  · have increasing := LineTable.start?_strictMono (Nat.succ_lt_succ above) stops behind
    omega
  · have same := Option.some.inj (stops.symm.trans behind)
    omega

end Span

theorem Placed.continues_iff_goesOnIn {source : Source} {line : Line} {placed : Placed}
    {mark : Underline} (underlined : placed.underline source.lines line = .ok mark)
    (found : source.lines.index? placed.snippet.span.start = some placed.line) :
    mark.continues = true ↔ placed.snippet.span.GoesOnIn source.text := by
  rw [(label_and_continues_of_underline underlined).2, Span.goesOnIn_iff found]
  simp [Source.lines, Option.any_eq_true]

/-- The mark stands between an underline and the label of its region if the region goes on, and
nothing stands there if it does not. -/
structure Underline.MarksContinued (config : Config) (text : Text) (snippet : Snippet)
    (mark : Underline) : Prop where
  iff : mark.continues = true ↔ snippet.span.GoesOnIn text
  marked : snippet.span.GoesOnIn text → Row.underlineText config mark =
    List.replicate mark.indent ' ' ++ (List.replicate mark.length config.underline).flatten ++
      config.continuation ++ config.underlineAfter ++ snippet.label
  unmarked : ¬snippet.span.GoesOnIn text → Row.underlineText config mark =
    List.replicate mark.indent ' ' ++ (List.replicate mark.length config.underline).flatten ++
      config.underlineAfter ++ snippet.label

theorem Underline.marksContinued {text : Text} {snippet : Snippet} {mark : Underline}
    (config : Config) (labelled : mark.label = snippet.label)
    (continues : mark.continues = true ↔ snippet.span.GoesOnIn text) :
    mark.MarksContinued config text snippet where
  iff := continues
  marked goesOn := by
    rw [Row.underlineText, if_pos (continues.mpr goesOn), labelled]
  unmarked stops := by
    rw [Row.underlineText, if_neg (mt continues.mp stops), List.append_nil, labelled]

namespace Diagnostic

variable {diagnostic : Diagnostic} {config : Config} {sources : Nat → Option Source} {color : Bool}

/-- In a message that is drawn, the underlines of the regions that go on behind their first lines,
and no others, are followed by the mark. A region that ends with the line feed of its first line does
not go on. -/
theorem draw_marks_continued {text : Text}
    (drawn : diagnostic.draw config sources color = .ok text) :
    ∃ rows, Row.write config diagnostic.severity color rows = text ∧
      ∀ snippet ∈ diagnostic.drawable sources, ∃ source width mark, ∃ shown : DrawnLine,
        sources snippet.source = some source ∧
        source.lines.index? snippet.span.start = some shown.index ∧
        shown.rows width <:+: rows ∧ (snippet, mark) ∈ shown.marks ∧
        mark.MarksContinued config source.text snippet ∧
        (source.lines.start? (shown.index + 1) = some snippet.span.stop →
          mark.continues = false) := by
  obtain ⟨rows, laidOut, rfl⟩ := draw_eq_ok_iff.mp drawn
  refine ⟨rows, rfl, fun snippet member => ?_⟩
  obtain ⟨source, width, shown, mark, known, placed, marked, shows, _⟩ :=
    exists_drawn_of_mem laidOut member
  obtain ⟨starts, line, _, underlined⟩ := shows.mark (snippet, mark) marked
  have continues : mark.continues = true ↔ snippet.span.GoesOnIn source.text :=
    Placed.continues_iff_goesOnIn underlined starts
  have labelled := (Placed.label_and_continues_of_underline underlined).1
  refine ⟨source, width, mark, shown, known, starts, placed, marked,
    Underline.marksContinued config labelled continues, fun stops => ?_⟩
  rw [Bool.eq_false_iff]
  exact mt continues.mp (Span.not_goesOnIn_of_stop starts stops)

/-- A region over the end of a line of two characters goes on with the next line. -/
theorem draw_marks_continued_return :
    let source := Source.inline "main.b".toList "ab\r\ncd".toList
    let snippet : Snippet := ⟨.primary, "name".toList, 0, ⟨1, 5⟩⟩
    let diagnostic : Diagnostic := ⟨.error, none, [snippet]⟩
    let sources (number : Nat) := [source][number]?
    let text := "Error:\nIn main.b:1:2\n1 │ ab\n  │  ^... name\n2 │ cd\n\n".toList
    diagnostic.draw {} sources false = .ok text ∧
      ∃ rows, Row.write {} .error false rows = text ∧
        ∀ snippet ∈ diagnostic.drawable sources, ∃ source width mark, ∃ shown : DrawnLine,
          sources snippet.source = some source ∧
          source.lines.index? snippet.span.start = some shown.index ∧
          shown.rows width <:+: rows ∧ (snippet, mark) ∈ shown.marks ∧
          mark.MarksContinued {} source.text snippet ∧
          (source.lines.start? (shown.index + 1) = some snippet.span.stop →
            mark.continues = false) := by
  intro source snippet diagnostic sources text
  have found : source.lines.index? snippet.span.start = some 0 := by decide +kernel
  have drawn : diagnostic.draw {} sources false = .ok text := by
    refine draw_eq_ok_iff.mpr ⟨[.header .error none, .location "main.b".toList none 1 2,
      .source 1 1 "ab".toList, .underline 1 ⟨.primary, 1, 1, true, "name".toList⟩,
      .source 1 2 "cd".toList, .blank], ?_, by decide +kernel⟩
    rw [Diagnostic.rows_singleton rfl found, Source.rows_singleton found (by decide)]
    decide +kernel
  exact ⟨drawn, draw_marks_continued drawn⟩

end Diagnostic

end Bcpl
