import Bcpl.Proofs.Diagnostic.Rows
import Bcpl.Proofs.Diagnostic.SingleRegion
import Bcpl.Proofs.Diagnostic.Underlines
import Bcpl.Proofs.Source.Places
import Bcpl.Proofs.Text.ControlSequences

/-!
Colours are decoration. Each style of a message is undone before the next one is set, and without
its control sequences a message in colour is the message without colour
(`Diagnostic.draw_decorated`).
-/

namespace Bcpl

namespace Piece

def isCommand : Piece → Bool
  | .text _ => false
  | .style _ | .reset => true

/-- Only what is written between the commands is left of a message. -/
theorem eraseEscapes_colored {pieces : List Piece}
    (unescaped : ∀ piece ∈ pieces, piece.plain.Unescaped) :
    Text.eraseEscapes (pieces.flatMap colored) = pieces.flatMap plain := by
  induction pieces with
  | nil => simp [Text.eraseEscapes]
  | cons piece rest ih =>
      obtain ⟨first, others⟩ := List.forall_mem_cons.mp unescaped
      rw [List.flatMap_cons, List.flatMap_cons, ← ih others]
      cases piece with
      | text content => exact Text.eraseEscapes_append first _
      | style look => exact Text.eraseEscapes_escapes look _
      | reset => exact Text.eraseEscapes_terminalEscape [0] _

end Piece

/-- The marks of messages hold no escape character. -/
structure Config.Unescaped (config : Config) : Prop where
  gutter : config.gutter.Unescaped
  underline : config.underline.Unescaped
  underlineAfter : config.underlineAfter.Unescaped
  continuation : config.continuation.Unescaped

structure Source.Unescaped (source : Source) : Prop where
  name : source.name.Unescaped
  path : ∀ path ∈ source.path, path.Unescaped
  text : source.text.Unescaped

/-- Nothing that a message shows holds an escape character. -/
structure Diagnostic.Unescaped (diagnostic : Diagnostic) (config : Config)
    (sources : Nat → Option Source) : Prop where
  message : ∀ message ∈ diagnostic.message, message.Unescaped
  label : ∀ snippet ∈ diagnostic.snippets, snippet.label.Unescaped
  source : ∀ number, ∀ source ∈ sources number, source.Unescaped
  config : config.Unescaped

namespace Row

/-- The styles in which the parts of a row are drawn. -/
def looks (config : Config) (severity : Severity) : Row → List Style
  | .header severity _ => [config.severityStyle severity]
  | .location _ _ _ _ | .source _ _ _ => [config.subtle]
  | .underline _ mark => [config.subtle, config.snippetStyle severity mark.kind]
  | .blank => []

/-- The texts that a row takes over. -/
def texts : Row → List Text
  | .header _ message => message.toList
  | .location name path _ _ => name :: path.toList
  | .source _ _ text => [text]
  | .underline _ mark => [mark.label]
  | .blank => []

variable {config : Config} {severity : Severity}

theorem filter_isCommand_pieces (row : Row) :
    (row.pieces config severity).filter Piece.isCommand =
      (row.looks config severity).flatMap fun look => [.style look, .reset] := by
  cases row <;> rfl

theorem unescaped_gutterPieces (marks : config.Unescaped) {field : Text}
    (unescaped : field.Unescaped) :
    ∀ piece ∈ gutterPieces config field, piece.plain.Unescaped := by
  simp [gutterPieces, Piece.plain, unescaped, marks.gutter]

theorem unescaped_placeText (line column : Nat) : (placeText line column).Unescaped := by
  simp [placeText]

theorem unescaped_locationText {name : Text} {path : Option Text} (named : name.Unescaped)
    (filed : ∀ file ∈ path, file.Unescaped) (line column : Nat) :
    (locationText name path line column).Unescaped := by
  have place := unescaped_placeText line column
  have front : Text.Unescaped "In ".toList := by decide
  have ended : Text.Unescaped "\n".toList := by decide
  unfold locationText
  cases path with
  | none =>
      simp only [Text.unescaped_append]
      exact ⟨⟨⟨⟨front, named⟩, place⟩, Text.unescaped_nil⟩, ended⟩
  | some path =>
      have opened : Text.Unescaped " (".toList := by decide
      have closed : Text.Unescaped ")".toList := by decide
      simp only [Text.unescaped_append]
      exact ⟨⟨⟨⟨front, named⟩, place⟩, ⟨⟨opened, filed path rfl⟩, place⟩, closed⟩, ended⟩

theorem unescaped_underlineText (marks : config.Unescaped) {mark : Underline}
    (label : mark.label.Unescaped) : (underlineText config mark).Unescaped := by
  have line := marks.underline.flatten_replicate mark.length
  have continued : Text.Unescaped (if mark.continues then config.continuation else []) := by
    split
    · exact marks.continuation
    · exact Text.unescaped_nil
  simp only [underlineText, Text.unescaped_append]
  exact ⟨⟨⟨⟨Text.unescaped_replicate_space _, line⟩, continued⟩, marks.underlineAfter⟩, label⟩

theorem unescaped_pieces (marks : config.Unescaped) {row : Row}
    (texts : ∀ text ∈ row.texts, text.Unescaped) :
    ∀ piece ∈ row.pieces config severity, piece.plain.Unescaped := by
  cases row with
  | header severity message =>
      have named : severity.name.Unescaped := by cases severity <;> decide
      cases message with
      | none => simp [pieces, Piece.plain, named]
      | some message => simpa [pieces, Piece.plain, named, Row.texts] using texts
  | location name path line column =>
      obtain ⟨named, filed⟩ := List.forall_mem_cons.mp texts
      have located := unescaped_locationText named (by simpa using filed) line column
      simp [pieces, Piece.plain, located]
  | source width number text =>
      have own : text.Unescaped := texts text (List.mem_singleton_self text)
      refine List.forall_mem_append.mpr ⟨unescaped_gutterPieces marks (by simp), ?_⟩
      simp [Piece.plain, own]
  | underline width mark =>
      have label : mark.label.Unescaped := texts mark.label (List.mem_singleton_self mark.label)
      have underlined := unescaped_underlineText marks label
      refine List.forall_mem_append.mpr ⟨unescaped_gutterPieces marks (by simp), ?_⟩
      simp [Piece.plain, underlined]
  | blank => simp [pieces, Piece.plain]

end Row

theorem Text.Unescaped.shown {source : Source} {line : Line} (unescaped : source.text.Unescaped)
    (listed : line ∈ source.lines.lines) : line.shown.Unescaped := by
  obtain ⟨before, after, whole, _⟩ := LineTable.stands_of_mem listed
  obtain ⟨ending, content, _⟩ := line.exists_content_eq
  rw [whole, content] at unescaped
  simp only [Text.unescaped_append] at unescaped
  exact unescaped.2.1.1

section Drawn

variable {context : Nat} {given : List Snippet}

theorem DrawnLine.Shows.unescaped {source : Source} {drawn : DrawnLine}
    (shows : drawn.Shows source.lines) (text : source.text.Unescaped)
    (labels : ∀ snippet ∈ drawn.snippets, snippet.label.Unescaped) (width : Nat) :
    ∀ row ∈ drawn.rows width, ∀ text ∈ row.texts, text.Unescaped := by
  refine List.forall_mem_cons.mpr ⟨?_, fun row member => ?_⟩
  · obtain ⟨_, found, expanded⟩ := Option.map_eq_some_iff.mp shows.text
    rw [LineTable.line?_eq] at found
    obtain ⟨line, listed, rfl⟩ := Option.map_eq_some_iff.mp found
    have shown := text.shown (List.mem_of_getElem? listed)
    have own : drawn.text.Unescaped := expanded ▸ shown.expandTabs
    simpa [Row.texts] using own
  · obtain ⟨mark, marked, rfl⟩ := List.mem_map.mp member
    obtain ⟨_, line, _, underlined⟩ := shows.mark mark marked
    have label : mark.1.label.Unescaped := labels mark.1 (List.mem_map_of_mem marked)
    have own : mark.2.label.Unescaped := (Placed.label_and_continues_of_underline underlined).1 ▸ label
    simpa [Row.texts] using own

theorem DrawnSource.Shows.unescaped {part : DrawnSource} (shows : part.Shows context given)
    (source : part.source.Unescaped) (labels : ∀ snippet ∈ given, snippet.label.Unescaped) :
    ∀ row ∈ part.rows, ∀ text ∈ row.texts, text.Unescaped := by
  intro row member
  obtain ⟨group, groupIn, member⟩ := List.mem_flatMap.mp member
  rcases List.mem_append.mp member with drawn | blank
  · rcases List.mem_cons.mp drawn with rfl | inLines
    · simpa [Row.texts, source.name] using source.path
    · obtain ⟨line, lineIn, member⟩ := List.mem_flatMap.mp inLines
      have own : ∀ snippet ∈ line.snippets, snippet.label.Unescaped := by
        intro snippet listed
        have inGroup : snippet ∈ group.snippets := List.mem_flatMap.mpr ⟨line, lineIn, listed⟩
        have inPart : snippet ∈ part.snippets := List.mem_flatMap.mpr ⟨group, groupIn, inGroup⟩
        exact labels snippet (shows.once.mem_iff.mp inPart)
      exact ((shows.group group groupIn).line line lineIn).unescaped source.text own _ row member
  · rw [List.mem_singleton.mp blank]
    exact List.forall_mem_nil _

end Drawn

namespace Diagnostic

variable {diagnostic : Diagnostic} {config : Config} {sources : Nat → Option Source} {color : Bool}

/-- Every row behind the header is drawn for one of the texts. -/
theorem exists_part_of_mem {rows : List Row}
    (laidOut : diagnostic.rows config sources = .ok rows) {row : Row} (member : row ∈ rows) :
    row = .header diagnostic.severity diagnostic.message ∨
      ∃ part : DrawnSource, row ∈ part.rows ∧ sources part.number = some part.source ∧
        part.Shows config.context
          ((diagnostic.drawable sources).filter (·.source == part.number)) := by
  obtain ⟨lists, each, laidOut⟩ := bind_eq_ok_iff.mp laidOut
  cases laidOut
  rcases List.mem_cons.mp member with header | listed
  · exact .inl header
  · obtain ⟨list, drawn, inside⟩ := List.mem_flatten.mp listed
    obtain ⟨number, numbered, laidOut⟩ := exists_input_of_result each drawn
    obtain ⟨source, known, found⟩ := exists_source_of_mem (List.mem_eraseDups.mp numbered)
    rw [known] at laidOut
    obtain ⟨part, rfl, rfl, rfl, shows⟩ := Source.exists_drawn_of_rows number found laidOut
    exact .inr ⟨part, inside, known, shows⟩

theorem Unescaped.texts (unescaped : diagnostic.Unescaped config sources) {rows : List Row}
    (laidOut : diagnostic.rows config sources = .ok rows) :
    ∀ row ∈ rows, ∀ text ∈ row.texts, text.Unescaped := by
  intro row member
  rcases exists_part_of_mem laidOut member with rfl | ⟨part, inside, known, shows⟩
  · simpa [Row.texts] using unescaped.message
  · refine shows.unescaped (unescaped.source part.number part.source known) ?_ row inside
    intro snippet listed
    exact unescaped.label snippet (List.mem_of_mem_filter (List.mem_of_mem_filter listed))

/-- The commands of a message are pairs of a style and its end. Taken out of a message in colour,
they leave the message without colour. -/
theorem draw_decorated {text : Text} (drawn : diagnostic.draw config sources color = .ok text) :
    ∃ pieces, diagnostic.pieces config sources = .ok pieces ∧
      (∃ looks : List Style, looks ≠ [] ∧
        pieces.filter Piece.isCommand = looks.flatMap fun look => [.style look, .reset]) ∧
      (diagnostic.Unescaped config sources → ∃ plain colored,
        diagnostic.draw config sources false = .ok plain ∧
          diagnostic.draw config sources true = .ok colored ∧ colored.eraseEscapes = plain) := by
  obtain ⟨rows, laidOut, _⟩ := draw_eq_ok_iff.mp drawn
  have pieces : diagnostic.pieces config sources =
      .ok (rows.flatMap (Row.pieces config diagnostic.severity)) := by
    rw [Diagnostic.pieces, laidOut]
    rfl
  refine ⟨_, pieces, ⟨rows.flatMap (Row.looks config diagnostic.severity), ?_, ?_⟩, ?_⟩
  · obtain ⟨lists, _, joined⟩ := bind_eq_ok_iff.mp laidOut
    cases joined
    exact List.cons_ne_nil _ _
  · rw [List.filter_flatMap, List.flatMap_assoc]
    exact List.flatMap_congr fun row _ => row.filter_isCommand_pieces
  · intro unescaped
    refine ⟨_, _, draw_eq_ok_iff.mpr ⟨rows, laidOut, rfl⟩,
      draw_eq_ok_iff.mpr ⟨rows, laidOut, rfl⟩, ?_⟩
    refine Piece.eraseEscapes_colored fun piece member => ?_
    obtain ⟨row, listed, member⟩ := List.mem_flatMap.mp member
    exact Row.unescaped_pieces unescaped.config (unescaped.texts laidOut row listed) piece member

/-- A warning on a file. -/
theorem draw_decorated_warning :
    let source := Source.ofFile "lib/main.b".toList "let X".toList
    let snippet : Snippet := ⟨.secondary, "name".toList, 0, ⟨4, 5⟩⟩
    let diagnostic : Diagnostic := ⟨.warning, some "here".toList, [snippet]⟩
    let sources (number : Nat) := [source][number]?
    let text :=
      "Warning: here\nIn main.b:1:5 (lib/main.b:1:5)\n1 │ let X\n  │     ^ name\n\n".toList
    diagnostic.draw {} sources false = .ok text ∧ diagnostic.Unescaped {} sources ∧
      ∃ pieces looks colored, diagnostic.pieces {} sources = .ok pieces ∧ looks ≠ [] ∧
        pieces.filter Piece.isCommand = looks.flatMap (fun look => [.style look, .reset]) ∧
        diagnostic.draw {} sources true = .ok colored ∧ colored.eraseEscapes = text := by
  intro source snippet diagnostic sources text
  have found : source.lines.index? snippet.span.start = some 0 := by decide +kernel
  have drawn : diagnostic.draw {} sources false = .ok text := by
    refine draw_eq_ok_iff.mpr ⟨[.header .warning (some "here".toList),
      .location "main.b".toList (some "lib/main.b".toList) 1 5, .source 1 1 "let X".toList,
      .underline 1 ⟨.secondary, 4, 1, false, "name".toList⟩, .blank], ?_, by decide +kernel⟩
    rw [Diagnostic.rows_singleton rfl found, Source.rows_singleton found (by decide)]
    decide +kernel
  have unescaped : diagnostic.Unescaped {} sources := by
    refine ⟨?_, ?_, fun number other known => ?_, by constructor <;> decide⟩
    · simp [diagnostic]
    · simp [diagnostic, snippet]
    · obtain rfl := List.mem_singleton.mp (List.mem_of_getElem? known)
      exact ⟨by decide +kernel, by simp [source, Source.ofFile], by decide +kernel⟩
  obtain ⟨pieces, taken, ⟨looks, filled, paired⟩, erased⟩ := draw_decorated drawn
  obtain ⟨plain, colored, plainly, inColor, same⟩ := erased unescaped
  obtain rfl : plain = text := Except.ok.inj (plainly.symm.trans drawn)
  exact ⟨drawn, unescaped, pieces, looks, colored, taken, filled, paired, inColor, same⟩

end Diagnostic

end Bcpl
