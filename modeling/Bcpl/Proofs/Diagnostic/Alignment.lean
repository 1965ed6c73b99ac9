import Bcpl.Proofs.Diagnostic.Faults
import Bcpl.Proofs.Diagnostic.SingleRegion
import Bcpl.Proofs.Text.Columns

/-!
Where an underline stands. A tab is drawn as four spaces but measured as five columns, so an
underline stands as many columns behind the text it is for as there are tabs in front of the text
(`Diagnostic.draw_aligns_underlines`).
-/

namespace Bcpl

theorem expandTabs_cons (c : Char) (rest : Text) :
    expandTabs (c :: rest) =
      (if c = '\t' then List.replicate 4 ' ' else [c]) ++ expandTabs rest :=
  List.flatMap_cons

namespace Text

/-- Four spaces take three columns more than the tab they are drawn for. -/
theorem measure_expandTabs (text : Text) :
    measure (expandTabs text) =
      ((measure text).1 + 3 * (text.count '\t' : Int), (measure text).2) := by
  induction text with
  | nil => rfl
  | cons c rest ih =>
      rw [expandTabs_cons]
      by_cases tab : c = '\t'
      · subst tab
        simp only [if_true, List.replicate, List.cons_append, List.nil_append, measure, ih,
          Front.precede_space, Front.precede_tab, List.count_cons_self, Prod.mk.injEq, and_true]
        omega
      · rw [if_neg tab, List.singleton_append, List.count_cons_of_ne tab]
        simp only [measure, ih, Prod.mk.injEq, and_true]
        omega

/-- A tab is measured as one column more than the spaces it is drawn as. -/
theorem columns_eq_width_expandTabs (text : Text) :
    columns text = width (expandTabs text) + text.count '\t' := by
  have drawn := width_eq (expandTabs text)
  have plain := width_eq text
  rw [measure_expandTabs] at drawn
  rw [columns]
  omega

end Text

/-- An underline stands below the part of a line that a region covers, but one column further to the
right for each tab in front of the part, and it is one column longer for each tab in the part. -/
def Underline.Aligned (mark : Underline) (line : Line) (span : Span) : Prop :=
  ∃ before marked after, line.shown = before ++ marked ++ after ∧
    before.size = line.clamp span.start ∧
    before.size + marked.size = max before.size (line.clamp span.stop) ∧
    mark.indent = Text.width (expandTabs before) + before.count '\t' ∧
    mark.length = max 1 (Text.width (expandTabs marked) + marked.count '\t')

theorem Placed.aligned_of_underline {table : LineTable} {line : Line} {placed : Placed}
    {mark : Underline} (stands : line.Stands table.text)
    (underlined : placed.underline table line = .ok mark) :
    mark.Aligned line placed.snippet.span := by
  by_cases cut : line.shown.Boundary (line.clamp placed.snippet.span.start) ∧
      line.shown.Boundary
        (max (line.clamp placed.snippet.span.start) (line.clamp placed.snippet.span.stop))
  · obtain ⟨before, marked, after, parts, start, stop⟩ := exists_parts_of_boundary cut.1 cut.2
    rw [underline_eq stands parts start stop] at underlined
    split at underlined
    · cases underlined
      exact ⟨before, marked, after, parts, start, stop, Text.columns_eq_width_expandTabs before,
        congrArg (max 1) (Text.columns_eq_width_expandTabs marked)⟩
    · contradiction
  · rw [underline_eq_splitCharacter stands cut] at underlined
    contradiction

namespace Diagnostic

variable {diagnostic : Diagnostic} {config : Config} {sources : Nat → Option Source} {color : Bool}

/-- In a message that is drawn, each region is underlined below the line it starts on. -/
theorem draw_aligns_underlines {text : Text}
    (drawn : diagnostic.draw config sources color = .ok text) :
    ∃ rows, Row.write config diagnostic.severity color rows = text ∧
      ∀ snippet ∈ diagnostic.drawable sources, ∃ source line width mark, ∃ shown : DrawnLine,
        sources snippet.source = some source ∧
        source.lines.index? snippet.span.start = some shown.index ∧
        source.lines.lines[shown.index]? = some line ∧
        shown.text = expandTabs line.shown ∧
        shown.rows width <:+: rows ∧ (snippet, mark) ∈ shown.marks ∧
        mark.Aligned line snippet.span := by
  obtain ⟨rows, laidOut, rfl⟩ := draw_eq_ok_iff.mp drawn
  refine ⟨rows, rfl, fun snippet member => ?_⟩
  obtain ⟨source, width, shown, mark, known, placed, marked, shows, _⟩ :=
    exists_drawn_of_mem laidOut member
  obtain ⟨starts, line, lineIs, underlined⟩ := shows.mark (snippet, mark) marked
  have text := shows.text
  rw [LineTable.line?_eq, lineIs] at text
  exact ⟨source, line, width, mark, shown, known, starts, lineIs, (Option.some.inj text).symm,
    placed, marked, Placed.aligned_of_underline (LineTable.stands_of_lines lineIs) underlined⟩

/-- Characters of two columns are underlined on both. -/
theorem draw_aligns_wide_characters :
    let source := Source.inline "main.b".toList "日本\tX".toList
    let snippet : Snippet := ⟨.secondary, "name".toList, 0, ⟨0, 6⟩⟩
    let diagnostic : Diagnostic := ⟨.warning, none, [snippet]⟩
    let sources (number : Nat) := [source][number]?
    let text := "Warning:\nIn main.b:1:1\n1 │ 日本    X\n  │ ^^^^ name\n\n".toList
    diagnostic.draw {} sources false = .ok text ∧
      ∃ rows, Row.write {} .warning false rows = text ∧
        ∀ snippet ∈ diagnostic.drawable sources, ∃ source line width mark, ∃ shown : DrawnLine,
          sources snippet.source = some source ∧
          source.lines.index? snippet.span.start = some shown.index ∧
          source.lines.lines[shown.index]? = some line ∧
          shown.text = expandTabs line.shown ∧
          shown.rows width <:+: rows ∧ (snippet, mark) ∈ shown.marks ∧
          mark.Aligned line snippet.span := by
  intro source snippet diagnostic sources text
  have found : source.lines.index? snippet.span.start = some 0 := by decide +kernel
  have drawn : diagnostic.draw {} sources false = .ok text := by
    refine draw_eq_ok_iff.mpr ⟨[.header .warning none, .location "main.b".toList none 1 1,
      .source 1 1 "日本    X".toList, .underline 1 ⟨.secondary, 0, 4, false, "name".toList⟩,
      .blank], ?_, by decide +kernel⟩
    rw [Diagnostic.rows_singleton rfl found, Source.rows_singleton found (by decide)]
    decide +kernel
  exact ⟨drawn, draw_aligns_underlines drawn⟩

/-- Behind a tab, which is drawn as four spaces, an underline starts in the sixth column. -/
theorem draw_behind_tab :
    let source := Source.inline "main.b".toList "\tX".toList
    let snippet : Snippet := ⟨.primary, "name".toList, 0, ⟨1, 2⟩⟩
    let diagnostic : Diagnostic := ⟨.error, some "here".toList, [snippet]⟩
    let sources (number : Nat) := [source][number]?
    diagnostic.rows {} sources = .ok [
        .header .error (some "here".toList), .location "main.b".toList none 1 2,
        .source 1 1 "    X".toList, .underline 1 ⟨.primary, 5, 1, false, "name".toList⟩, .blank] ∧
      diagnostic.draw {} sources false = .ok
        "Error: here\nIn main.b:1:2\n1 │     X\n  │      ^ name\n\n".toList ∧
      Text.width (expandTabs "\t".toList) = 4 := by
  intro source snippet diagnostic sources
  have found : source.lines.index? snippet.span.start = some 0 := by decide +kernel
  have rows : diagnostic.rows {} sources = .ok [
      .header .error (some "here".toList), .location "main.b".toList none 1 2,
      .source 1 1 "    X".toList, .underline 1 ⟨.primary, 5, 1, false, "name".toList⟩, .blank] := by
    rw [Diagnostic.rows_singleton rfl found, Source.rows_singleton found (by decide)]
    decide +kernel
  exact ⟨rows, draw_eq_ok_iff.mpr ⟨_, rows, by decide +kernel⟩, by decide +kernel⟩

end Diagnostic

end Bcpl
