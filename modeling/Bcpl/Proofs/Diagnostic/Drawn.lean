import Mathlib.Data.List.Zip
import Bcpl.Diagnostic.Drawing
import Bcpl.Proofs.Diagnostic.Placing
import Bcpl.Proofs.Diagnostic.Windows
import Bcpl.Proofs.Results
import Bcpl.Proofs.Source.Lines
import Bcpl.Proofs.Text.Decimals

/-!
A drawn message taken apart: the texts it shows, in each text the groups of lines, and below each
line the underlines of the regions that start on it.
-/

namespace Bcpl

/-- Rows of a message as they are written. -/
def Row.write (config : Config) (severity : Severity) (color : Bool) (rows : List Row) : Text :=
  (rows.flatMap (Row.pieces config severity)).flatMap
    (if color then Piece.colored else Piece.plain)

namespace Diagnostic

variable {diagnostic : Diagnostic} {config : Config} {sources : Nat → Option Source} {color : Bool}

theorem draw_eq_map_rows : diagnostic.draw config sources color =
    (diagnostic.rows config sources).map (Row.write config diagnostic.severity color) := by
  rw [draw, pieces]
  cases diagnostic.rows config sources <;> rfl

theorem draw_eq_ok_iff {text : Text} :
    diagnostic.draw config sources color = .ok text ↔ ∃ rows,
      diagnostic.rows config sources = .ok rows ∧
        Row.write config diagnostic.severity color rows = text := by
  rw [draw_eq_map_rows]
  cases diagnostic.rows config sources <;> simp [Except.map]

theorem draw_eq_error_iff {fault : Fault} :
    diagnostic.draw config sources color = .error fault ↔
      diagnostic.rows config sources = .error fault := by
  rw [draw_eq_map_rows]
  cases diagnostic.rows config sources <;> simp [Except.map]

end Diagnostic

/-- A line with the underlines below it. Each stands with the region it is for. -/
structure DrawnLine where
  index : Nat
  text : Text
  marks : List (Snippet × Underline)

structure DrawnGroup where
  line : Nat
  column : Nat
  /-- The columns in which the numbers of the lines are written. -/
  width : Nat
  lines : List DrawnLine

structure DrawnSource where
  number : Nat
  source : Source
  groups : List DrawnGroup

namespace DrawnLine

def rows (width : Nat) (drawn : DrawnLine) : List Row :=
  .source width (drawn.index + 1) drawn.text ::
    drawn.marks.map fun mark => .underline width mark.2

def snippets (drawn : DrawnLine) : List Snippet := drawn.marks.map Prod.fst

/-- A line is shown with its tabs as spaces, and the regions underlined below it start on it. -/
structure Shows (table : LineTable) (drawn : DrawnLine) : Prop where
  text : (table.line? drawn.index).map expandTabs = some drawn.text
  mark : ∀ mark ∈ drawn.marks, table.index? mark.1.span.start = some drawn.index ∧
    ∃ line, table.lines[drawn.index]? = some line ∧
      Placed.underline table line ⟨mark.1, drawn.index⟩ = .ok mark.2

end DrawnLine

namespace DrawnGroup

def rows (source : Source) (drawn : DrawnGroup) : List Row :=
  .location source.name source.path drawn.line drawn.column ::
    drawn.lines.flatMap (DrawnLine.rows drawn.width) ++ [.blank]

def indices (drawn : DrawnGroup) : List Nat := drawn.lines.map DrawnLine.index

def snippets (drawn : DrawnGroup) : List Snippet := drawn.lines.flatMap DrawnLine.snippets

/-- A group is a run of lines without gaps. Its location is the smallest start of a region. -/
structure Shows (table : LineTable) (drawn : DrawnGroup) : Prop where
  line : ∀ line ∈ drawn.lines, line.Shows table
  nonempty : drawn.lines ≠ []
  consecutive : ∃ first, drawn.indices = List.range' first drawn.lines.length
  located : ∃ first ∈ drawn.snippets,
    (∀ other ∈ drawn.snippets, first.span.start ≤ other.span.start) ∧
      table.position? first.span.start = some (drawn.line, drawn.column)

end DrawnGroup

namespace DrawnSource

def rows (drawn : DrawnSource) : List Row :=
  drawn.groups.flatMap (DrawnGroup.rows drawn.source)

def indices (drawn : DrawnSource) : List Nat := drawn.groups.flatMap DrawnGroup.indices

def snippets (drawn : DrawnSource) : List Snippet := drawn.groups.flatMap DrawnGroup.snippets

/-- A text is shown with the lines that are at most `context` lines away from the first line of one
of the regions. -/
structure Shows (context : Nat) (given : List Snippet) (drawn : DrawnSource) : Prop where
  group : ∀ group ∈ drawn.groups, group.Shows drawn.source.lines
  near : ∀ index, index ∈ drawn.indices ↔ index < drawn.source.lines.count ∧
    ∃ snippet ∈ given, ∃ line, drawn.source.lines.index? snippet.span.start = some line ∧
      line ≤ index + context ∧ index ≤ line + context
  increasing : drawn.indices.Pairwise (· < ·)
  /-- Between the lines of two groups a line is left out. -/
  apart : drawn.groups.Pairwise fun first second =>
    ∀ above ∈ first.indices, ∀ below ∈ second.indices, above + 1 < below
  /-- Each region is underlined once. -/
  once : drawn.snippets.Perm given
  ordered : drawn.snippets.Pairwise fun first second => first.span.start ≤ second.span.start
  /-- Regions that start at one byte come in the order in which they were given. -/
  stable : ∀ start, drawn.snippets.filter (·.span.start = start) =
    given.filter (·.span.start = start)

end DrawnSource

section Keys

variable {α : Type} {key : α → Nat} {list : List α} {start count : Nat}
  (ordered : list.Pairwise fun first second => key first ≤ key second)
include ordered

theorem filter_least_append (least : ∀ each ∈ list, start ≤ key each) :
    list.filter (key · == start) ++ list.filter (key · != start) = list := by
  induction list with
  | nil => rfl
  | cons first rest ih =>
      obtain ⟨later, ordered⟩ := List.pairwise_cons.mp ordered
      obtain ⟨lower, others⟩ := List.forall_mem_cons.mp least
      by_cases here : key first = start
      · rw [List.filter_cons_of_pos (by simpa using here),
          List.filter_cons_of_neg (by simpa using here), List.cons_append, ih ordered others]
      · have beyond : ∀ each ∈ first :: rest, key each ≠ start := by
          refine List.forall_mem_cons.mpr ⟨here, fun each member => ?_⟩
          have behind := later each member
          omega
        rw [List.filter_eq_nil_iff.mpr (by simpa using beyond), List.nil_append,
          List.filter_eq_self.mpr (by simpa using beyond)]

/-- Elements in the order of their keys, taken key by key. -/
theorem flatMap_filter_range'
    (within : ∀ each ∈ list, start ≤ key each ∧ key each < start + count) :
    (List.range' start count).flatMap (fun index => list.filter (key · == index)) = list := by
  induction count generalizing start list with
  | zero =>
      cases list with
      | nil => rfl
      | cons first rest =>
          have bounds := within first List.mem_cons_self
          omega
  | succ count ih =>
      let others := list.filter (key · != start)
      have behind : ∀ each ∈ others, start + 1 ≤ key each ∧ key each < start + 1 + count := by
        intro each member
        obtain ⟨listed, other⟩ := List.mem_filter.mp member
        have bounds := within each listed
        have other : key each ≠ start := by simpa using other
        omega
      have same : ∀ index ∈ List.range' (start + 1) count,
          list.filter (key · == index) = others.filter (key · == index) := by
        intro index member
        have above := (List.mem_range'_1.mp member).1
        rw [List.filter_filter]
        refine List.filter_congr fun each _ => ?_
        by_cases here : key each = index
        · have other : index ≠ start := by omega
          simp [here, other]
        · simp [here]
      rw [List.range'_succ, List.flatMap_cons, List.flatMap_congr same,
        ih (ordered.filter _) behind]
      exact filter_least_append ordered fun each member => (within each member).1

end Keys

namespace Group

variable {group : Group} {source : Source} {table : LineTable}

/-- The lines of a group that there are. -/
def shown (group : Group) (table : LineTable) : List Nat :=
  List.range' group.lines.start (group.stop table - group.lines.start)

theorem mem_shown {index : Nat} : index ∈ group.shown table ↔
    (group.lines.start ≤ index ∧ index < group.lines.stop) ∧ index < table.count := by
  simp only [shown, List.mem_range'_1, Group.stop]
  omega

/-- The columns of the number of the last line. -/
def width (group : Group) (table : LineTable) : Nat :=
  (Text.decimal (max (group.stop table) 1)).length

theorem numberWidth_eq (group : Group) (table : LineTable) :
    group.numberWidth table = .ok (group.width table) := by
  have positive : 0 < max (group.stop table) 1 := by omega
  rw [numberWidth, Checked.logarithm_of_pos positive, width, Text.length_decimal]
  rfl

/-- The rows of a line, if the text has it. -/
def rowsAt (group : Group) (table : LineTable) (width index : Nat) : Except Fault (List Row) :=
  match table.lines[index]? with
  | none => .ok []
  | some line => group.lineRows table width index line

theorem rowsAt_of_line (group : Group) (width : Nat) {index : Nat} {line : Line}
    (found : table.lines[index]? = some line) :
    group.rowsAt table width index = group.lineRows table width index line := by
  rw [rowsAt, found]

/-- As long as the text has the lines, they are drawn one by one. -/
theorem linesRows_eq_mapM {indices : List Nat} (width : Nat)
    (inside : ∀ index ∈ indices, index < table.count) :
    group.linesRows table width indices =
      (indices.mapM (group.rowsAt table width)).map List.flatten := by
  induction indices with
  | nil => rfl
  | cons index rest ih =>
      obtain ⟨first, others⟩ := List.forall_mem_cons.mp inside
      rw [LineTable.count_eq_length] at first
      have listed := List.getElem?_eq_getElem first
      rw [linesRows, LineTable.findLine_eq, listed, ih others, List.mapM_cons,
        group.rowsAt_of_line width listed]
      change (group.lineRows table width index _ >>= _) = _
      cases group.lineRows table width index table.lines[index] with
      | error fault => rfl
      | ok rows => cases rest.mapM (group.rowsAt table width) <;> rfl

theorem rowsAt_eq_ok {width index : Nat} {rows : List Row} (inside : index < table.count)
    (drawn : group.rowsAt table width index = .ok rows)
    (placed : ∀ each ∈ group.placed, table.index? each.snippet.span.start = some each.line) :
    ∃ line : DrawnLine, line.rows width = rows ∧ line.index = index ∧
      line.snippets = (group.placed.filter (·.line == index)).map Placed.snippet ∧
      line.Shows table := by
  rw [LineTable.count_eq_length] at inside
  obtain ⟨line, found⟩ : ∃ line, table.lines[index]? = some line :=
    ⟨_, List.getElem?_eq_getElem inside⟩
  rw [group.rowsAt_of_line width found] at drawn
  obtain ⟨underlines, marked, drawn⟩ := bind_eq_ok_iff.mp drawn
  cases drawn
  obtain ⟨marks, rfl, right⟩ : ∃ marks : List (Snippet × Underline),
      marks.map Prod.snd = underlines ∧ List.Forall₂
        (fun each mark => mark.1 = each.snippet ∧ each.underline table line = .ok mark.2)
        (group.placed.filter (·.line == index)) marks :=
    exists_of_mapM_eq_ok marked fun each _ mark underlined =>
      ⟨(each.snippet, mark), rfl, rfl, underlined⟩
  refine ⟨⟨index, expandTabs line.shown, marks⟩, ?_, rfl, ?_, ?_, fun mark member => ?_⟩
  · simp only [DrawnLine.rows, List.map_map]
    rfl
  · exact map_eq_map_of_forall₂ right fun each mark same => same.1
  · simp [LineTable.line?_eq, found]
  · obtain ⟨⟨of, at_⟩, filtered, rfl, underlined⟩ := exists_input_of_mem right member
    obtain ⟨listed, here⟩ := List.mem_filter.mp filtered
    obtain rfl : at_ = index := by simpa using here
    exact ⟨placed ⟨mark.1, at_⟩ listed, line, found, underlined⟩

/-- The regions of a group are found in the text, and come in the order in which they start. -/
structure Ordered (table : LineTable) (group : Group) : Prop where
  nonempty : group.placed ≠ []
  found : ∀ placed ∈ group.placed, table.index? placed.snippet.span.start = some placed.line ∧
    placed.line < table.count
  lines : group.placed.Pairwise fun first second => first.line ≤ second.line
  starts : (group.placed.map Placed.snippet).Pairwise
    fun first second => first.span.start ≤ second.span.start

theorem location_of_position {first : Placed} {others : List Placed} {line column : Nat}
    (split : group.placed = first :: others) (source : Source)
    (position : table.position? first.snippet.span.start = some (line, column)) :
    group.location source table = .ok (.location source.name source.path line column) := by
  rw [location, split]
  change (table.findPosition first.snippet.span.start >>= _) = _
  rw [LineTable.findPosition_eq, position]
  rfl

/-- The place of a group is that of its first region, for there is one and it is found. -/
theorem exists_location (ordered : group.Ordered table) (source : Source) :
    ∃ first others line column, group.placed = first :: others ∧
      table.position? first.snippet.span.start = some (line, column) ∧
      group.location source table = .ok (.location source.name source.path line column) := by
  obtain ⟨first, others, split⟩ := List.exists_cons_of_ne_nil ordered.nonempty
  obtain ⟨found, inside⟩ := ordered.found first (by simp [split])
  rw [LineTable.count_eq_length] at inside
  have position := LineTable.position?_eq_some found (List.getElem?_eq_getElem inside)
  exact ⟨first, others, _, _, split, position, location_of_position split source position⟩

/-- A group is drawn with the place of its first region and its lines. -/
theorem rows_eq_bind (group : Group) (source : Source) (table : LineTable) :
    group.rows source table = group.location source table >>= fun location =>
      (group.shown table).mapM (group.rowsAt table (group.width table)) >>= fun lines =>
        .ok (location :: lines.flatten ++ [.blank]) := by
  have drawn : group.linesRows table (group.width table) (group.shown table) =
      ((group.shown table).mapM (group.rowsAt table (group.width table))).map List.flatten :=
    linesRows_eq_mapM _ fun index member => (mem_shown.mp member).2
  rw [shown] at drawn
  rw [rows, numberWidth_eq]
  change (group.location source table >>= fun location => group.linesRows table _ _ >>= _) = _
  rw [drawn, shown]
  cases group.location source table with
  | error fault => rfl
  | ok location =>
      cases (List.range' group.lines.start (group.stop table - group.lines.start)).mapM
        (group.rowsAt table (group.width table)) <;> rfl

theorem rows_eq_ok {context : Nat} {rows : List Row} (covers : group.Covers context)
    (ordered : group.Ordered table) (drawn : group.rows source table = .ok rows) :
    ∃ drawn : DrawnGroup, drawn.rows source = rows ∧
      drawn.indices = group.shown table ∧
      drawn.snippets = group.placed.map Placed.snippet ∧ drawn.Shows table ∧
      drawn.width = group.width table := by
  obtain ⟨first, others, line, column, split, position, location⟩ := exists_location ordered source
  have listed : first ∈ group.placed := by simp [split]
  rw [rows_eq_bind, location] at drawn
  obtain ⟨_, ⟨⟩, drawn⟩ := bind_eq_ok_iff.mp drawn
  obtain ⟨parts, each, drawn⟩ := bind_eq_ok_iff.mp drawn
  cases drawn
  obtain ⟨lines, rfl, right⟩ := exists_of_mapM_eq_ok each fun index member rows drawn =>
    rowsAt_eq_ok (mem_shown.mp member).2 drawn fun placed listed =>
      (ordered.found placed listed).1
  have indices : lines.map DrawnLine.index = group.shown table := by
    rw [← List.map_id (group.shown table)]
    exact map_eq_map_of_forall₂ right fun index line drawn => drawn.1
  have snippets : lines.flatMap DrawnLine.snippets = group.placed.map Placed.snippet := by
    have same := map_eq_map_of_forall₂ right fun index line drawn => drawn.2.1
    have within : ∀ placed ∈ group.placed, group.lines.start ≤ placed.line ∧
        placed.line < group.lines.start + (group.stop table - group.lines.start) := by
      intro placed member
      obtain ⟨_, inside⟩ := ordered.found placed member
      have within := (covers placed.line).mpr ⟨placed, member, placed.near_self context⟩
      simp only [Group.stop]
      omega
    rw [← flatMap_filter_range' ordered.lines within, List.map_flatMap, List.flatMap_def, same,
      List.flatMap_def, shown]
  refine ⟨⟨line, column, group.width table, lines⟩, ?_, indices, snippets, ⟨?_, ?_, ?_, ?_⟩, rfl⟩
  · simp only [DrawnGroup.rows, List.flatMap_def]
  · intro drawn member
    obtain ⟨index, _, shown⟩ := exists_input_of_mem right member
    exact shown.2.2
  · rintro rfl
    simp [split] at snippets
  · have length : lines.length = group.stop table - group.lines.start := by
      simpa [shown] using congrArg List.length indices
    exact ⟨group.lines.start, by rw [length]; exact indices⟩
  · have first_mem : first.snippet ∈ lines.flatMap DrawnLine.snippets := by
      rw [snippets]
      exact List.mem_map_of_mem listed
    have starts := ordered.starts
    refine ⟨first.snippet, first_mem, fun other member => ?_, position⟩
    have given : other ∈ group.placed.map Placed.snippet := snippets ▸ member
    rw [split] at starts given
    rcases List.mem_cons.mp given with rfl | later
    · exact Nat.le_refl _
    · exact (List.pairwise_cons.mp starts).1 other later

end Group

namespace Group

variable {context : Nat} {text : Text} {snippets : List Snippet} {group : Group}

theorem exists_near_inOrder_iff {table : LineTable} {index : Nat} :
    (∃ placed ∈ Placed.inOrder table snippets, placed.Near context index) ↔
      ∃ snippet ∈ snippets, ∃ line, table.index? snippet.span.start = some line ∧
        line ≤ index + context ∧ index ≤ line + context := by
  constructor
  · rintro ⟨⟨snippet, line⟩, listed, near⟩
    obtain ⟨given, found⟩ := Placed.mem_inOrder.mp listed
    exact ⟨snippet, given, line, found, near⟩
  · rintro ⟨snippet, given, line, found, near⟩
    exact ⟨⟨snippet, line⟩, Placed.mem_inOrder.mpr ⟨given, found⟩, near⟩

/-- The lines of all groups are those near a region. -/
theorem mem_flatMap_shown {table : LineTable} {list : List Placed} {index : Nat}
    (covers : ∀ group ∈ joined context list, group.Covers context) :
    index ∈ (joined context list).flatMap (shown · table) ↔
      index < table.count ∧ ∃ placed ∈ list, placed.Near context index := by
  rw [List.mem_flatMap]
  constructor
  · rintro ⟨group, member, within⟩
    obtain ⟨within, inside⟩ := mem_shown.mp within
    obtain ⟨placed, listed, near⟩ := (covers group member index).mp within
    rw [← flatMap_placed_joined context list]
    exact ⟨inside, placed, List.mem_flatMap.mpr ⟨group, member, listed⟩, near⟩
  · rintro ⟨inside, placed, listed, near⟩
    rw [← flatMap_placed_joined context list] at listed
    obtain ⟨group, member, listed⟩ := List.mem_flatMap.mp listed
    have within := (covers group member index).mpr ⟨placed, listed, near⟩
    exact ⟨group, member, mem_shown.mpr ⟨within, inside⟩⟩

theorem pairwise_shown (table : LineTable) {list : List Placed}
    (apart : (joined context list).Pairwise Apart) :
    ((joined context list).map (shown · table)).Pairwise fun first second =>
      ∀ above ∈ first, ∀ below ∈ second, above + 1 < below := by
  rw [List.pairwise_map]
  refine apart.imp fun {first second} between above aboveIn below belowIn => ?_
  have above := (mem_shown.mp aboveIn).1.2
  have below := (mem_shown.mp belowIn).1.1
  simp only [Apart] at between
  omega

theorem ordered_of_mem_joined {table : LineTable} (ofText : table = LineTable.ofText text)
    (member : group ∈ joined context (Placed.inOrder table snippets)) :
    group.Ordered table := by
  have lines := Placed.pairwise_line table snippets
  have starts := Placed.pairwise_start table snippets
  rw [← flatMap_placed_joined context (Placed.inOrder table snippets)] at lines starts
  rw [List.map_flatMap] at starts
  refine ⟨placed_ne_nil_of_mem_joined member, fun placed listed => ?_,
    (List.pairwise_flatMap.mp lines).1 group member,
    (List.pairwise_flatMap.mp starts).1 group member⟩
  have given := List.mem_flatMap.mpr ⟨group, member, listed⟩
  rw [flatMap_placed_joined] at given
  have found := (Placed.mem_inOrder.mp given).2
  subst ofText
  exact ⟨found, LineTable.index?_lt_count found⟩

end Group

theorem Placed.mapM_window_eq_ok_iff {context : Nat} {list : List Placed} {windows : List Span} :
    list.mapM (Placed.window context) = .ok windows ↔
      (∀ placed ∈ list, placed.line + context + 1 ≤ maxLineNumber) ∧
        windows = list.map (Placed.lines context) := by
  induction list generalizing windows with
  | nil => simp [pure, Except.pure, eq_comm]
  | cons placed rest ih =>
      simp only [mapM_cons_eq_ok_iff, Placed.window_eq_ok_iff, ih, List.forall_mem_cons,
        List.map_cons]
      constructor
      · rintro ⟨window, others, ⟨fits, rfl⟩, ⟨allFit, rfl⟩, rfl⟩
        exact ⟨⟨fits, allFit⟩, rfl⟩
      · rintro ⟨⟨fits, allFit⟩, rfl⟩
        exact ⟨_, _, ⟨fits, rfl⟩, ⟨allFit, rfl⟩, rfl⟩

theorem Source.rows_eq_ok_iff {source : Source} {config : Config} {snippets : List Snippet}
    {rows : List Row} :
    source.rows config snippets = .ok rows ↔
      (∀ placed ∈ Placed.inOrder source.lines snippets,
        placed.line + config.context + 1 ≤ maxLineNumber) ∧
      ∃ parts, (Group.joined config.context (Placed.inOrder source.lines snippets)).mapM
        (·.rows source source.lines) = .ok parts ∧ parts.flatten = rows := by
  rw [Group.joined, List.map_prod_left_eq_zip]
  change (Placed.inOrder source.lines snippets).mapM (Placed.window config.context) >>= _ = _ ↔ _
  simp only [bind_eq_ok_iff, Placed.mapM_window_eq_ok_iff]
  constructor
  · rintro ⟨windows, ⟨fit, rfl⟩, parts, each, joined⟩
    cases joined
    exact ⟨fit, parts, each, rfl⟩
  · rintro ⟨fit, parts, each, rfl⟩
    exact ⟨_, ⟨fit, rfl⟩, parts, each, rfl⟩

theorem Source.exists_drawn_of_rows {source : Source} {config : Config} {snippets : List Snippet}
    {rows : List Row} (number : Nat)
    (found : ∀ snippet ∈ snippets, snippet.span.start ≤ source.lines.size)
    (drawn : source.rows config snippets = .ok rows) :
    ∃ part : DrawnSource, part.rows = rows ∧ part.number = number ∧ part.source = source ∧
      part.Shows config.context snippets := by
  obtain ⟨_, parts, each, rfl⟩ := rows_eq_ok_iff.mp drawn
  obtain ⟨covers, apart⟩ := Group.covers_and_apart_of_joined config.context
    (Placed.pairwise_line source.lines snippets)
  obtain ⟨groups, rfl, right⟩ := exists_of_mapM_eq_ok each fun group member rows drawn =>
    group.rows_eq_ok (covers group member) (Group.ordered_of_mem_joined rfl member) drawn
  have indices : groups.map DrawnGroup.indices =
      (Group.joined config.context (Placed.inOrder source.lines snippets)).map
        (Group.shown · source.lines) :=
    map_eq_map_of_forall₂ right fun group drawn shows => shows.1
  have marked : groups.flatMap DrawnGroup.snippets =
      (Placed.inOrder source.lines snippets).map Placed.snippet := by
    rw [List.flatMap_def, map_eq_map_of_forall₂ right fun group drawn shows => shows.2.1,
      ← List.flatMap_def, ← List.map_flatMap, Group.flatMap_placed_joined]
  have between := Group.pairwise_shown source.lines apart
  have increasing : (groups.flatMap DrawnGroup.indices).Pairwise (· < ·) := by
    rw [List.flatMap_def, indices, ← List.flatMap_def, List.pairwise_flatMap]
    rw [List.pairwise_map] at between
    refine ⟨fun group _ => List.pairwise_lt_range' 1, between.imp ?_⟩
    intro first second apart above aboveIn below belowIn
    have gap := apart above aboveIn below belowIn
    omega
  refine ⟨⟨number, source, groups⟩, ?_, rfl, rfl, ?_, ?_, increasing, ?_, ?_, ?_, ?_⟩
  · rw [DrawnSource.rows, List.flatMap_def]
  · intro drawn member
    obtain ⟨group, _, shows⟩ := exists_input_of_mem right member
    exact shows.2.2.1
  · intro index
    rw [DrawnSource.indices, List.flatMap_def, indices, ← List.flatMap_def,
      Group.mem_flatMap_shown covers, Group.exists_near_inOrder_iff]
  · rw [← indices, List.pairwise_map] at between
    exact between
  · rw [DrawnSource.snippets, marked]
    exact Placed.map_snippet_inOrder_perm found
  · rw [DrawnSource.snippets, marked]
    exact Placed.pairwise_start source.lines snippets
  · intro start
    rw [DrawnSource.snippets, marked]
    exact Placed.filter_start_inOrder found start

/-- Each region of a text is underlined below one of the lines that are shown of the text. -/
theorem DrawnSource.Shows.exists_line {context : Nat} {given : List Snippet} {part : DrawnSource}
    (shows : part.Shows context given) {snippet : Snippet} (member : snippet ∈ given) :
    ∃ width, ∃ drawn : DrawnLine, ∃ mark, drawn.rows width <:+: part.rows ∧
      (snippet, mark) ∈ drawn.marks ∧ drawn.Shows part.source.lines := by
  have underlined := shows.once.mem_iff.mpr member
  obtain ⟨group, groupIn, inGroup⟩ := List.mem_flatMap.mp underlined
  obtain ⟨drawn, drawnIn, inLine⟩ := List.mem_flatMap.mp inGroup
  obtain ⟨⟨_, mark⟩, marked, rfl⟩ := List.mem_map.mp inLine
  have inLines : drawn.rows group.width <:+: group.lines.flatMap (DrawnLine.rows group.width) :=
    List.infix_of_mem_flatten (List.mem_map_of_mem drawnIn)
  have inRows : group.rows part.source <:+: part.rows :=
    List.infix_of_mem_flatten (List.mem_map_of_mem groupIn)
  refine ⟨group.width, drawn, mark, (inLines.trans ?_).trans inRows, marked,
    (shows.group group groupIn).line drawn drawnIn⟩
  exact List.infix_append [_] _ [Row.blank]

end Bcpl
