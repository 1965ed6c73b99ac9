import Bcpl.Proofs.Diagnostic.Rows
import Bcpl.Proofs.Diagnostic.Underlines
import Bcpl.Proofs.Source.Places

/-!
Messages that are not drawn (`Diagnostic.draw_fails_iff`). A message fails with the first of its
regions that cannot be drawn, and it is drawn if there is none.
-/

namespace Bcpl

namespace Snippet

/-- The line that a region starts on, with its number. -/
def StartsOn (snippet : Snippet) (source : Source) (index : Nat) (line : Line) : Prop :=
  source.lines.index? snippet.span.start = some index ∧ source.lines.lines[index]? = some line

/-- A region cannot be drawn if the lines around it have numbers of more than 64 bits, or if the
part of it on the line it starts on begins or ends inside a character. -/
def Breaks (snippet : Snippet) (context : Nat) (source : Source) : Prop :=
  ∃ index line, snippet.StartsOn source index line ∧
    (maxLineNumber < index + context + 1 ∨
      ¬source.text.Boundary (snippet.span.clampTo line).start ∨
      ¬source.text.Boundary (snippet.span.clampTo line).stop)

/-- What stands on the line in front of a region is wider than a field can be. -/
def Wide (snippet : Snippet) (source : Source) : Prop :=
  ∃ index line before, snippet.StartsOn source index line ∧
    source.text.slice? line.start (snippet.span.clampTo line).start = some before ∧
    maxIndent < columns before

/-- A region is the cause of a fault. Only three kinds of faults are ever caused. -/
def Causes (snippet : Snippet) (context : Nat) (source : Source) : Fault → Prop
  | .lineOverflow => ∃ index line, snippet.StartsOn source index line ∧
      maxLineNumber < index + context + 1
  | .splitCharacter => ∃ index line, snippet.StartsOn source index line ∧
      ¬(source.text.Boundary (snippet.span.clampTo line).start ∧
        source.text.Boundary (snippet.span.clampTo line).stop)
  | .wideIndent => snippet.Wide source
  | .outsideText | .underflow | .reversedBounds | .missingItem | .logarithmOfZero => False

theorem Causes.breaks {snippet : Snippet} {context : Nat} {source : Source} {fault : Fault}
    (causes : snippet.Causes context source fault) (narrow : fault ≠ .wideIndent) :
    snippet.Breaks context source := by
  cases fault with
  | lineOverflow =>
      obtain ⟨index, line, starts, overflow⟩ := causes
      exact ⟨index, line, starts, .inl overflow⟩
  | splitCharacter =>
      obtain ⟨index, line, starts, split⟩ := causes
      exact ⟨index, line, starts, .inr (not_and_or.mp split)⟩
  | wideIndent => contradiction
  | outsideText | underflow | reversedBounds | missingItem | logarithmOfZero => contradiction

end Snippet

namespace Placed

variable {table : LineTable} {line : Line} {placed : Placed}

theorem boundaries_of_underline {mark : Underline} (stands : line.Stands table.text)
    (underlined : placed.underline table line = .ok mark) :
    table.text.Boundary (placed.snippet.span.clampTo line).start ∧
      table.text.Boundary (placed.snippet.span.clampTo line).stop := by
  by_contra split
  rw [boundaries_iff stands] at split
  rw [underline_eq_splitCharacter stands split] at underlined
  contradiction

/-- Why a region is not underlined. -/
theorem underline_eq_error {fault : Fault} (stands : line.Stands table.text)
    (failed : placed.underline table line = .error fault) :
    (fault = .wideIndent ∧ ∃ before,
      table.text.slice? line.start (placed.snippet.span.clampTo line).start = some before ∧
        maxIndent < columns before) ∨
    (fault = .splitCharacter ∧ ¬(table.text.Boundary (placed.snippet.span.clampTo line).start ∧
      table.text.Boundary (placed.snippet.span.clampTo line).stop)) := by
  rw [boundaries_iff stands]
  by_cases boundaries : line.shown.Boundary (line.clamp placed.snippet.span.start) ∧
      line.shown.Boundary
        (max (line.clamp placed.snippet.span.start) (line.clamp placed.snippet.span.stop))
  · obtain ⟨before, marked, rest, parts, start, stop⟩ :=
      exists_parts_of_boundary boundaries.1 boundaries.2
    rw [underline_eq stands parts start stop] at failed
    split at failed
    · contradiction
    · next beyond =>
        cases failed
        exact .inl ⟨rfl, before, slice?_indent stands parts start, Nat.lt_of_not_le beyond⟩
  · rw [underline_eq_splitCharacter stands boundaries] at failed
    cases failed
    exact .inr ⟨rfl, boundaries⟩

end Placed

/-- A region that starts between two characters is drawn if it stops between two characters, is
empty, stops before it starts, or goes on to the end of the text or beyond. -/
theorem Snippet.not_breaks {snippet : Snippet} {context : Nat} {source : Source}
    (startIn : source.text.Boundary snippet.span.start)
    (stopIn : source.text.Boundary snippet.span.stop ∨ snippet.span.stop ≤ snippet.span.start ∨
      source.text.size ≤ snippet.span.stop)
    (small : source.text.size + context < maxLineNumber) : ¬snippet.Breaks context source := by
  rintro ⟨index, line, ⟨found, lineIs⟩, broken⟩
  have stands := LineTable.stands_of_mem (List.mem_of_getElem? lineIs)
  have startIn := stands.boundary startIn
  have fits : index ≤ source.text.size := by
    have counted : index < (LineTable.ofText source.text).count := LineTable.index?_lt_count found
    have breaks : source.text.count '\n' ≤ source.text.length := List.count_le_length
    have bounded := Text.length_le_size source.text
    rw [LineTable.count_ofText] at counted
    omega
  have stopIn : line.shown.Boundary
      (max (line.clamp snippet.span.start) (line.clamp snippet.span.stop)) := by
    rcases stopIn with boundary | inverted | beyond
    · exact startIn.max (stands.boundary boundary)
    · rwa [Nat.max_eq_left (line.clamp_mono inverted)]
    · rw [stands.clamp_of_size_le beyond, Nat.max_eq_right (line.clamp_le _)]
      exact .of_size
  obtain ⟨startCut, stopCut⟩ := (Placed.boundaries_iff stands _).mpr ⟨startIn, stopIn⟩
  rcases broken with overflow | split | split
  · omega
  · exact split startCut
  · exact split stopCut

section Group

variable {group : Group} {table : LineTable} {fault : Fault}

theorem Group.exists_of_rowsAt_eq_error {width index : Nat}
    (failed : group.rowsAt table width index = .error fault) :
    ∃ placed ∈ group.placed, ∃ line, table.lines[placed.line]? = some line ∧
      placed.underline table line = .error fault := by
  rw [rowsAt] at failed
  split at failed
  · contradiction
  · next line listed =>
      rcases bind_eq_error_iff.mp failed with underlines | ⟨_, _, joined⟩
      · obtain ⟨placed, filtered, fails⟩ := exists_of_mapM_eq_error underlines
        obtain ⟨member, here⟩ := List.mem_filter.mp filtered
        rw [← eq_of_beq here] at listed
        exact ⟨placed, member, line, listed, fails⟩
      · contradiction

/-- A group fails at one of its regions: its place and the width of its numbers are always found. -/
theorem Group.exists_of_rows_eq_error {source : Source} (ordered : group.Ordered table)
    (failed : group.rows source table = .error fault) :
    ∃ placed ∈ group.placed, ∃ line, table.lines[placed.line]? = some line ∧
      placed.underline table line = .error fault := by
  obtain ⟨_, _, _, _, _, _, location⟩ := exists_location ordered source
  rw [rows_eq_bind, location] at failed
  rcases bind_eq_error_iff.mp failed with unplaced | ⟨_, _, failed⟩
  · contradiction
  · rcases bind_eq_error_iff.mp failed with lines | ⟨_, _, joined⟩
    · obtain ⟨index, _, fails⟩ := exists_of_mapM_eq_error lines
      exact exists_of_rowsAt_eq_error fails
    · contradiction

end Group

theorem Placed.window_eq_error {context : Nat} {placed : Placed} {fault : Fault}
    (failed : placed.window context = .error fault) :
    fault = .lineOverflow ∧ maxLineNumber < placed.line + context + 1 := by
  rw [Placed.window] at failed
  split at failed
  · contradiction
  · next beyond =>
      cases failed
      exact ⟨rfl, Nat.lt_of_not_le beyond⟩

/-- A text fails at one of its regions. -/
theorem Source.exists_of_rows_eq_error {source : Source} {config : Config}
    {snippets : List Snippet} {fault : Fault}
    (failed : source.rows config snippets = .error fault) :
    ∃ placed ∈ Placed.inOrder source.lines snippets,
      fault = .lineOverflow ∧ maxLineNumber < placed.line + config.context + 1 ∨
        ∃ line, source.lines.lines[placed.line]? = some line ∧
          placed.underline source.lines line = .error fault := by
  rcases bind_eq_error_iff.mp failed with windows | ⟨windows, fit, drawn⟩
  · obtain ⟨placed, member, overflow⟩ := exists_of_mapM_eq_error windows
    exact ⟨placed, member, .inl (Placed.window_eq_error overflow)⟩
  · obtain ⟨_, rfl⟩ := Placed.mapM_window_eq_ok_iff.mp fit
    rw [← List.map_prod_left_eq_zip] at drawn
    rcases bind_eq_error_iff.mp drawn with groups | ⟨_, _, joined⟩
    · obtain ⟨group, listed, fails⟩ := exists_of_mapM_eq_error groups
      obtain ⟨placed, member, line, lineIs, fails⟩ :=
        Group.exists_of_rows_eq_error (Group.ordered_of_mem_joined rfl listed) fails
      have given := List.mem_flatMap.mpr ⟨group, listed, member⟩
      have kept := Group.flatMap_placed_joined config.context (Placed.inOrder source.lines snippets)
      exact ⟨placed, kept ▸ given, .inr ⟨line, lineIs, fails⟩⟩
    · contradiction

/-- Whatever a table of lines is asked for is found without a fault. -/
structure LineTable.Readable (table : LineTable) : Prop where
  start : ∀ index, table.findStart index = .ok (table.start? index)
  line : ∀ index, ∃ line, table.findLine index = .ok line ∧ line.map Line.shown = table.line? index
  position : ∀ byte, table.findPosition byte = .ok (table.position? byte)

theorem LineTable.readable (table : LineTable) : table.Readable where
  start index := by rw [findStart_eq, start?_eq]
  line index := ⟨_, table.findLine_eq index, (table.line?_eq index).symm⟩
  position := table.findPosition_eq

namespace Diagnostic

variable {diagnostic : Diagnostic} {config : Config} {sources : Nat → Option Source} {color : Bool}

theorem mem_drawable_iff {snippet : Snippet} {source : Source}
    (known : sources snippet.source = some source) :
    snippet ∈ diagnostic.drawable sources ↔
      snippet ∈ diagnostic.snippets ∧ snippet.span.start ≤ source.text.size := by
  simp [drawable, Snippet.isDrawable, known]

/-- In the rows of a message each region is underlined below a line, and the lines around it have
numbers of 64 bits. -/
theorem exists_drawn_of_mem {rows : List Row} (laidOut : diagnostic.rows config sources = .ok rows)
    {snippet : Snippet} (member : snippet ∈ diagnostic.drawable sources) :
    ∃ source width, ∃ drawn : DrawnLine, ∃ mark, sources snippet.source = some source ∧
      drawn.rows width <:+: rows ∧ (snippet, mark) ∈ drawn.marks ∧ drawn.Shows source.lines ∧
      drawn.index + config.context + 1 ≤ maxLineNumber := by
  obtain ⟨parts, each, laidOut⟩ := bind_eq_ok_iff.mp laidOut
  cases laidOut
  have number : snippet.source ∈ (diagnostic.drawable sources).map Snippet.source :=
    List.mem_map_of_mem member
  obtain ⟨source, known, found⟩ := exists_source_of_mem number
  obtain ⟨part, listed, laidOut⟩ := exists_result_of_mem each (List.mem_eraseDups.mpr number)
  simp only [known] at laidOut
  have fits := (Source.rows_eq_ok_iff.mp laidOut).1
  obtain ⟨part, rfl, _, rfl, shows⟩ := Source.exists_drawn_of_rows snippet.source found laidOut
  have given : snippet ∈ (diagnostic.drawable sources).filter (·.source == snippet.source) :=
    List.mem_filter.mpr ⟨member, beq_self_eq_true _⟩
  obtain ⟨width, drawn, mark, within, marked, shows⟩ := shows.exists_line given
  have placed : Placed.mk snippet drawn.index ∈ Placed.inOrder part.source.lines
      ((diagnostic.drawable sources).filter (·.source == snippet.source)) :=
    Placed.mem_inOrder.mpr ⟨given, (shows.mark (snippet, mark) marked).1⟩
  have within := within.trans (List.infix_of_mem_flatten listed)
  exact ⟨part.source, width, drawn, mark, known, within.trans (List.suffix_cons _ _).isInfix,
    marked, shows, fits _ placed⟩

/-- A message fails at one of its regions. -/
theorem exists_of_rows_eq_error {fault : Fault}
    (failed : diagnostic.rows config sources = .error fault) :
    ∃ snippet ∈ diagnostic.drawable sources, ∃ source, sources snippet.source = some source ∧
      snippet.Causes config.context source fault := by
  rcases bind_eq_error_iff.mp failed with parts | ⟨_, _, joined⟩
  · obtain ⟨number, _, failed⟩ := exists_of_mapM_eq_error parts
    split at failed
    · contradiction
    · next source known =>
        obtain ⟨⟨snippet, index⟩, listed, broken⟩ := Source.exists_of_rows_eq_error failed
        obtain ⟨given, found⟩ := Placed.mem_inOrder.mp listed
        obtain ⟨member, same⟩ := List.mem_filter.mp given
        refine ⟨snippet, member, source, by rw [eq_of_beq same, known], ?_⟩
        obtain ⟨line, lineIs, _⟩ := LineTable.exists_line_of_index? found
        have stands := LineTable.stands_of_lines lineIs
        rcases broken with ⟨rfl, overflow⟩ | ⟨line', lineIs', fails⟩
        · exact ⟨index, line, ⟨found, lineIs⟩, overflow⟩
        · cases lineIs.symm.trans lineIs'
          rcases Placed.underline_eq_error stands fails with ⟨rfl, before, cut, beyond⟩ | ⟨rfl, split⟩
          · exact ⟨index, line, before, ⟨found, lineIs⟩, cut, beyond⟩
          · exact ⟨index, line, ⟨found, lineIs⟩, split⟩
  · contradiction

theorem not_breaks_of_rows {rows : List Row} (laidOut : diagnostic.rows config sources = .ok rows)
    {snippet : Snippet} (member : snippet ∈ diagnostic.drawable sources) {source : Source}
    (known : sources snippet.source = some source) :
    ¬snippet.Breaks config.context source := by
  rintro ⟨index, line, ⟨found, lineIs⟩, broken⟩
  obtain ⟨source', width, drawn, mark, known', _, marked, shows, fits⟩ :=
    exists_drawn_of_mem laidOut member
  cases known.symm.trans known'
  obtain ⟨found', line', lineIs', underlined⟩ := shows.mark (snippet, mark) marked
  cases found.symm.trans found'
  cases lineIs.symm.trans lineIs'
  have stands := LineTable.stands_of_lines lineIs
  obtain ⟨startIn, stopIn⟩ := Placed.boundaries_of_underline stands underlined
  rcases broken with overflow | split | split
  · exact Nat.not_le.mpr overflow fits
  · exact split startIn
  · exact split stopIn

/-- A message fails if one of the regions to be drawn cannot be. Nothing else can fail, except that
what stands in front of a region is too wide for a field: no number is taken from a smaller one, no
region is moved between bounds in the wrong order, no text is cut outside of it, no group is without
a first region, and no line has the number zero. -/
theorem draw_fails_iff :
    ((∃ fault, diagnostic.draw config sources color = .error fault) ↔
      diagnostic.draw config sources color = .error .wideIndent ∨
        ∃ snippet ∈ diagnostic.snippets, ∃ source, sources snippet.source = some source ∧
          snippet.span.start ≤ source.text.size ∧ snippet.Breaks config.context source) ∧
    (∀ fault, diagnostic.draw config sources color = .error fault →
      (fault = .splitCharacter ∨ fault = .lineOverflow ∨ fault = .wideIndent) ∧
        ∃ snippet ∈ diagnostic.snippets, ∃ source, sources snippet.source = some source ∧
          snippet.span.start ≤ source.text.size ∧ snippet.Causes config.context source fault) ∧
    (∀ (snippet : Snippet) (source : Source), source.text.Boundary snippet.span.start →
      (source.text.Boundary snippet.span.stop ∨ snippet.span.stop ≤ snippet.span.start ∨
        source.text.size ≤ snippet.span.stop) →
      source.text.size + config.context < maxLineNumber →
      ¬snippet.Breaks config.context source) ∧
    ∀ table : LineTable, table.Readable := by
  have caused {fault : Fault} (failed : diagnostic.draw config sources color = .error fault) :
      ∃ snippet ∈ diagnostic.snippets, ∃ source, sources snippet.source = some source ∧
        snippet.span.start ≤ source.text.size ∧ snippet.Causes config.context source fault := by
    obtain ⟨snippet, member, source, known, causes⟩ :=
      exists_of_rows_eq_error (draw_eq_error_iff.mp failed)
    obtain ⟨given, inside⟩ := (mem_drawable_iff known).mp member
    exact ⟨snippet, given, source, known, inside, causes⟩
  refine ⟨⟨?_, ?_⟩, fun fault failed => ⟨?_, caused failed⟩,
    fun snippet source => Snippet.not_breaks, LineTable.readable⟩
  · rintro ⟨fault, failed⟩
    by_cases wide : fault = .wideIndent
    · exact .inl (wide ▸ failed)
    · obtain ⟨snippet, given, source, known, inside, causes⟩ := caused failed
      exact .inr ⟨snippet, given, source, known, inside, causes.breaks wide⟩
  · rintro (wide | ⟨snippet, given, source, known, inside, breaks⟩)
    · exact ⟨_, wide⟩
    · cases drawn : diagnostic.draw config sources color with
      | error fault => exact ⟨fault, rfl⟩
      | ok text =>
          obtain ⟨rows, laidOut, _⟩ := draw_eq_ok_iff.mp drawn
          have member := (mem_drawable_iff known).mpr ⟨given, inside⟩
          exact absurd breaks (not_breaks_of_rows laidOut member known)
  · obtain ⟨_, _, _, _, _, causes⟩ := caused failed
    cases fault with
    | splitCharacter | lineOverflow | wideIndent => simp
    | outsideText | underflow | reversedBounds | missingItem | logarithmOfZero => contradiction

end Diagnostic

end Bcpl
