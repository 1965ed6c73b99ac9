import Bcpl.Proofs.Diagnostic.Rows
import Bcpl.Proofs.Diagnostic.SingleRegion
import Bcpl.Proofs.Text.Columns
import Bcpl.Proofs.Text.Decimals

/-!
The gutter to the left of a drawn text. The numbers of a group are written in a field that just
holds the last of them, so the gutter is in one column from the first row of the group to the last
(`Diagnostic.draw_lines_up`).
-/

namespace Bcpl

namespace Row

variable {config : Config} {severity : Severity}

def number? : Row → Option Nat
  | .source _ number _ => some number
  | _ => none

/-- What is written in front of the gutter: the number of a line, and nothing below the line. The
other rows have no gutter. -/
def margin? : Row → Option Text
  | .source _ number _ => some (Text.decimal number)
  | .underline _ _ => some []
  | _ => none

/-- The gutter stands behind a field of `width` columns and a blank, and what is written in the
field is whole and at its right end. -/
def HasGutterAt (config : Config) (severity : Severity) (width : Nat) (margin : Text) (row : Row) :
    Prop :=
  ∃ blanks rest,
    row.pieces config severity = .style config.subtle ::
      .text (List.replicate blanks ' ' ++ margin ++ " ".toList ++ config.gutter ++ " ".toList) ::
      .reset :: rest ∧
    blanks + margin.length = width ∧
    Text.width (List.replicate blanks ' ' ++ margin ++ " ".toList) = width + 1

theorem getLast?_locationText (name : Text) (path : Option Text) (line column : Nat) :
    (locationText name path line column).getLast? = some '\n' := by
  unfold locationText
  exact List.getLast?_concat

/-- What is drawn of a row ends a line. -/
theorem getLast?_plain (row : Row) :
    ((row.pieces config severity).flatMap Piece.plain).getLast? = some '\n' := by
  unfold pieces
  cases row <;> simp [gutterPieces, getLast?_locationText, Piece.plain, List.getLast?_cons]

theorem hasGutterAt_of_alignRight {width : Nat} {row : Row} {margin : Text} {rest : List Piece}
    (begins : row.pieces config severity =
      gutterPieces config (Text.alignRight width margin) ++ rest)
    (fits : margin.length ≤ width) (ascii : ∀ c ∈ margin, c.toNat < 0x80 ∧ c ≠ '\n') :
    row.HasGutterAt config severity width margin := by
  have spaced : ∀ c ∈ List.replicate (width - margin.length) ' ' ++ margin ++ " ".toList,
      c.toNat < 0x80 ∧ c ≠ '\n' := by
    intro c member
    rcases List.mem_append.mp member with field | behind
    · rcases List.mem_append.mp field with blank | inMargin
      · exact Text.ascii_of_mem_replicate blank
      · exact ascii c inMargin
    · rw [List.mem_singleton.mp behind]
      decide
  have filled : width - margin.length + margin.length = width := Nat.sub_add_cancel fits
  refine ⟨width - margin.length, rest, begins, filled, ?_⟩
  rw [Text.width_of_ascii spaced, List.length_append, List.length_append, List.length_replicate,
    filled]
  rfl

end Row

/-- The rows of a group, its last line having the number `last`: the gutters of all rows that have
one stand behind a field for the digits of this number. -/
structure Row.LinedUp (config : Config) (severity : Severity) (last : Nat) (rows : List Row) :
    Prop where
  ends : (rows.filterMap Row.number?).getLast? = some last
  gutter : ∀ row ∈ rows, ∀ margin ∈ row.margin?,
    row.HasGutterAt config severity (Text.decimal last).length margin

namespace DrawnGroup

variable {group : DrawnGroup} {source : Source} {config : Config} {severity : Severity}

theorem filterMap_number?_rows :
    (group.rows source).filterMap Row.number? = group.indices.map (· + 1) := by
  have lines : (group.lines.flatMap (DrawnLine.rows group.width)).filterMap Row.number? =
      group.indices.map (· + 1) := by
    rw [List.filterMap_flatMap, indices, List.map_map,
      ← List.flatMap_singleton' (group.lines.map _), List.flatMap_map]
    refine List.flatMap_congr fun line _ => ?_
    simp [DrawnLine.rows, Row.number?, List.filterMap_map, Function.comp_def]
  rw [rows, List.filterMap_append, List.filterMap_cons_none rfl, lines]
  exact List.append_nil _

theorem hasGutterAt_of_mem {last : Nat} (within : ∀ index ∈ group.indices, index + 1 ≤ last)
    (fitted : group.width = (Text.decimal last).length) {row : Row}
    (member : row ∈ group.rows source) {margin : Text} (begins : margin ∈ row.margin?) :
    row.HasGutterAt config severity (Text.decimal last).length margin := by
  rw [rows, List.cons_append, List.mem_cons, List.mem_append, List.mem_singleton] at member
  rcases member with rfl | inLines | rfl
  · contradiction
  · obtain ⟨line, listed, inLine⟩ := List.mem_flatMap.mp inLines
    rcases List.mem_cons.mp inLine with rfl | below
    · cases begins
      have number := within line.index (List.mem_map_of_mem listed)
      rw [fitted]
      exact Row.hasGutterAt_of_alignRight rfl (Text.length_decimal_mono number)
        fun c => Text.ascii_of_mem_decimal
    · obtain ⟨mark, _, rfl⟩ := List.mem_map.mp below
      cases begins
      rw [fitted]
      exact Row.hasGutterAt_of_alignRight rfl (Nat.zero_le _) (by simp)
  · contradiction

end DrawnGroup

namespace Group

variable {context : Nat} {group : Group} {source : Source} {table : LineTable} {rows : List Row}

/-- The line that the first region of a group starts on is shown. -/
theorem start_lt_stop (covers : group.Covers context) (ordered : group.Ordered table) :
    group.lines.start < group.stop table := by
  obtain ⟨first, listed⟩ := List.exists_mem_of_ne_nil _ ordered.nonempty
  have inside := (ordered.found first listed).2
  have near := (covers first.line).mpr ⟨first, listed, first.near_self context⟩
  rw [stop]
  omega

theorem linedUp_of_rows {config : Config} {severity : Severity} (covers : group.Covers context)
    (ordered : group.Ordered table) (drawn : group.rows source table = .ok rows) :
    Row.LinedUp config severity (group.stop table) rows := by
  have filled := start_lt_stop covers ordered
  obtain ⟨shape, rfl, indices, _, _, drawnWidth⟩ := rows_eq_ok covers ordered drawn
  have fitted : shape.width = (Text.decimal (group.stop table)).length := by
    rw [drawnWidth, width, Nat.max_eq_left (Nat.one_le_of_lt filled)]
  constructor
  case ends =>
    rw [DrawnGroup.filterMap_number?_rows, indices, shown, List.getLast?_map, List.getLast?_range',
      if_neg (by omega)]
    simp only [Option.map_some, Option.some.injEq]
    omega
  case gutter =>
    intro row member margin begins
    refine DrawnGroup.hasGutterAt_of_mem (fun index listed => ?_) fitted member begins
    rw [indices] at listed
    have last := (mem_shown.mp listed)
    rw [stop]
    omega

end Group

namespace Diagnostic

variable {diagnostic : Diagnostic} {config : Config} {sources : Nat → Option Source} {color : Bool}

/-- The groups that the regions of one text are drawn in. -/
def groupsOf (diagnostic : Diagnostic) (config : Config) (sources : Nat → Option Source)
    (number : Nat) : List (Source × Group) :=
  (sources number).toList.flatMap fun source =>
    (Group.joined config.context (Placed.inOrder source.lines
      ((diagnostic.drawable sources).filter (·.source == number)))).map (source, ·)

/-- The groups of a message in the order in which they are drawn, each with its text. -/
def groups (diagnostic : Diagnostic) (config : Config) (sources : Nat → Option Source) :
    List (Source × Group) :=
  ((diagnostic.drawable sources).map Snippet.source).eraseDups.flatMap
    (diagnostic.groupsOf config sources)

/-- A group is drawn in rows whose gutters stand in one column. -/
def DrawnLinedUp (config : Config) (severity : Severity) (drawn : Source × Group)
    (rows : List Row) : Prop :=
  drawn.2.rows drawn.1 drawn.1.lines = .ok rows ∧
    Row.LinedUp config severity (drawn.2.stop drawn.1.lines) rows

theorem linedUp_of_source {source : Source} {snippets : List Snippet} {rows : List Row}
    (severity : Severity) (drawn : source.rows config snippets = .ok rows) :
    ∃ parts : List (List Row), parts.flatten = rows ∧
      List.Forall₂ (DrawnLinedUp config severity)
        ((Group.joined config.context (Placed.inOrder source.lines snippets)).map (source, ·))
        parts := by
  obtain ⟨_, parts, each, rfl⟩ := Source.rows_eq_ok_iff.mp drawn
  obtain ⟨covers, _⟩ := Group.covers_and_apart_of_joined config.context
    (Placed.pairwise_line source.lines snippets)
  obtain ⟨parts, rfl, right⟩ : ∃ drawn : List (List Row), drawn.map id = parts ∧
      List.Forall₂ (fun group rows => DrawnLinedUp config severity (source, group) rows)
        (Group.joined config.context (Placed.inOrder source.lines snippets)) drawn :=
    exists_of_mapM_eq_ok each fun group member rows drawn => ⟨rows, rfl, drawn,
      group.linedUp_of_rows (covers group member) (Group.ordered_of_mem_joined rfl member) drawn⟩
  exact ⟨parts, by rw [List.map_id], List.forall₂_map_left_iff.mpr right⟩

/-- In a message that is drawn, the numbers of a group go up to the end of its lines or of the text,
and the gutters of all its rows stand behind a field for the digits of the last number. Each row is
on a line of its own, so they stand in one column. -/
theorem draw_lines_up {text : Text} (drawn : diagnostic.draw config sources color = .ok text) :
    ∃ parts : List (List Row),
      Row.write config diagnostic.severity color
        (.header diagnostic.severity diagnostic.message :: parts.flatten) = text ∧
      List.Forall₂ (DrawnLinedUp config diagnostic.severity)
        (diagnostic.groups config sources) parts ∧
      ∀ row : Row, ((row.pieces config diagnostic.severity).flatMap Piece.plain).getLast? =
        some '\n' := by
  obtain ⟨rows, laidOut, rfl⟩ := draw_eq_ok_iff.mp drawn
  obtain ⟨rowLists, each, laidOut⟩ := bind_eq_ok_iff.mp laidOut
  cases laidOut
  obtain ⟨parts, rfl, right⟩ : ∃ parts : List (List (List Row)),
      parts.map List.flatten = rowLists ∧
      List.Forall₂ (fun number parts => List.Forall₂ (DrawnLinedUp config diagnostic.severity)
          (diagnostic.groupsOf config sources number) parts)
        ((diagnostic.drawable sources).map Snippet.source).eraseDups parts := by
    refine exists_of_mapM_eq_ok each fun number member rows laidOut => ?_
    obtain ⟨source, known, _⟩ := exists_source_of_mem (List.mem_eraseDups.mp member)
    rw [known] at laidOut
    obtain ⟨parts, same, right⟩ := linedUp_of_source diagnostic.severity laidOut
    refine ⟨parts, same, ?_⟩
    rw [groupsOf, known, Option.toList_some, List.flatMap_singleton]
    exact right
  refine ⟨parts.flatten, by rw [List.flatten_flatten], ?_, fun row => row.getLast?_plain⟩
  rw [groups, List.flatMap_def]
  exact List.rel_flatten (List.forall₂_map_left_iff.mpr right)

/-- From the ninth line to the tenth a number gets one digit more. -/
theorem draw_lines_up_ten :
    let source := Source.inline "main.b".toList "a\nb\nc\nd\ne\nf\ng\nh\ni\nj\nk".toList
    let snippet : Snippet := ⟨.primary, "name".toList, 0, ⟨16, 17⟩⟩
    let diagnostic : Diagnostic := ⟨.error, none, [snippet]⟩
    let sources (number : Nat) := [source][number]?
    let text :=
      "Error:\nIn main.b:9:1\n 8 │ h\n 9 │ i\n   │ ^ name\n10 │ j\n\n".toList
    diagnostic.draw {} sources false = .ok text ∧
      ∃ parts : List (List Row),
        Row.write {} .error false (.header .error none :: parts.flatten) = text ∧
        List.Forall₂ (DrawnLinedUp {} .error) (diagnostic.groups {} sources) parts ∧
        ∀ row : Row, ((row.pieces {} .error).flatMap Piece.plain).getLast? = some '\n' := by
  intro source snippet diagnostic sources text
  have found : source.lines.index? snippet.span.start = some 8 := by decide +kernel
  have drawn : diagnostic.draw {} sources false = .ok text := by
    refine draw_eq_ok_iff.mpr ⟨[.header .error none, .location "main.b".toList none 9 1,
      .source 2 8 "h".toList, .source 2 9 "i".toList,
      .underline 2 ⟨.primary, 0, 1, false, "name".toList⟩, .source 2 10 "j".toList, .blank],
      ?_, by decide +kernel⟩
    rw [Diagnostic.rows_singleton rfl found, Source.rows_singleton found (by decide)]
    decide +kernel
  exact ⟨drawn, draw_lines_up drawn⟩

end Diagnostic

end Bcpl
