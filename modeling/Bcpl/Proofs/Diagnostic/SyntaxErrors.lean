import Bcpl.Parser.Diagnosis
import Bcpl.Proofs.Diagnostic.Messages
import Bcpl.Proofs.Diagnostic.SingleRegion
import Bcpl.Proofs.Diagnostic.Underlines
import Bcpl.Session

/-!
Every syntax error can be shown, unless it stands too far to the right
(`Session.report_syntax_error`).
-/

namespace Bcpl

/-- What is drawn in front of a place on its line. -/
def Source.lead (source : Source) (before : Text) : Text :=
  ((source.lines.line? (before.count '\n')).getD []).take before.lastLine.length

/-- The rows that show an error on a line, with the lines around it. -/
def errorRows (source : Source) (line column width : Nat) (mark : Underline) : List Row :=
  let first := max 1 (line - 1)
  let last := min (line + 1) (source.text.count '\n' + 1)
  .header .error (some "syntax error".toList) :: .location source.name source.path line column ::
    (List.range' first (last + 1 - first)).flatMap (markedRows source.lines width line mark) ++
      [.blank]

theorem line_fits {before after : Text} (short : Text.size (before ++ after) < Nat.pow 2 63) :
    before.count '\n' + 1 + 1 ≤ maxLineNumber := by
  have counted : before.count '\n' ≤ before.length := List.count_le_length
  have measured := before.length_le_size
  have power : Nat.pow 2 64 = 2 * Nat.pow 2 63 := by decide
  have large : 2 < Nat.pow 2 63 := by decide
  rw [Text.size_append] at short
  simp only [maxLineNumber, power]
  omega

theorem errorRows_eq (source : Source) (placed : Placed) (column : Nat) (mark : Underline) :
    let group := Group.ofPlaced placed (placed.lines 1)
    let width := group.width source.lines
    .header .error (some "syntax error".toList) ::
      (.location source.name source.path (placed.line + 1) column ::
        (List.range' (group.lines.start + 1) (group.stop source.lines - group.lines.start)).flatMap
          (markedRows source.lines width (placed.line + 1) mark) ++ [.blank]) =
      errorRows source (placed.line + 1) column width mark := by
  intro group width
  have count : source.lines.count = source.text.count '\n' + 1 :=
    LineTable.count_ofText source.text
  have first : max 1 (placed.line + 1 - 1) = placed.line - 1 + 1 := by omega
  have numbers : min (placed.line + 1 + 1) (source.text.count '\n' + 1) + 1 -
      (placed.line - 1 + 1) = group.stop source.lines - group.lines.start := by
    simp only [Group.stop, group, Group.ofPlaced, Placed.lines, count]
    omega
  simp only [errorRows, first, numbers]
  rfl

theorem SyntaxError.draw_diagnostic {source : Source} {error : SyntaxError}
    {sources : Nat → Option Source} {number : Nat} {color : Bool}
    (failed : parse source.text = .error error) (short : source.text.size < Nat.pow 2 63)
    (known : sources number = some source) :
    ∃ before after, source.text = before ++ after ∧ before.size = error.span.start ∧
      ∃ width mark, mark.label = error.cause.message ∧
        (error.diagnostic number).draw {} sources color =
          if columns (source.lead before) ≤ maxIndent then
            .ok (Row.write {} .error color
              (errorRows source (before.count '\n' + 1) (before.lastLine.size + 1) width mark))
          else .error .wideIndent := by
  obtain ⟨startIn, stopIn⟩ := (arises_of_parse failed).boundary
  obtain ⟨before, after, split, size⟩ := id startIn
  obtain ⟨line, tail, listed, stands, content, start⟩ := LineTable.exists_line before after
  have found := LineTable.index?_append before after
  rw [split] at short
  rw [← split] at listed stands found
  rw [size] at found start
  change source.lines.index? error.span.start = _ at found
  change source.lines.lines[before.count '\n']? = _ at listed
  let placed : Placed :=
    ⟨⟨.primary, error.cause.message, number, error.span⟩, before.count '\n'⟩
  let group := Group.ofPlaced placed (placed.lines 1)
  obtain ⟨mark, label, underlined⟩ : ∃ mark : Underline, mark.label = placed.snippet.label ∧
      placed.underline source.lines line =
        if columns (line.shown.take before.lastLine.length) ≤ maxIndent then .ok mark
        else .error .wideIndent :=
    Placed.exists_underline stands content start startIn stopIn
  have lead : source.lead before = line.shown.take before.lastLine.length := by
    rw [Source.lead, LineTable.line?_eq, listed]
    rfl
  have located : source.lines.position? placed.snippet.span.start =
      some (placed.line + 1, before.lastLine.size + 1) := by
    rw [LineTable.position?_eq_some found listed, start, Nat.add_sub_cancel_left]
  have rows : (error.diagnostic number).rows {} sources =
      (group.rows source source.lines).map (.header .error (some "syntax error".toList) :: ·) :=
    (Diagnostic.rows_singleton known found).trans
      (congrArg _ (Source.rows_singleton found (line_fits short)))
  have alone : group.placed = [placed] := rfl
  refine ⟨before, after, split, size, group.width source.lines, mark, label, ?_⟩
  rw [Diagnostic.draw_eq_map_rows, rows, lead]
  split at underlined
  · next narrow =>
      have drawn := Group.rows_of_underline alone listed source located underlined
      rw [if_pos narrow, drawn, ← errorRows_eq source placed]
      rfl
  · next wide =>
      have inside : placed.line ∈ group.shown source.lines :=
        Group.mem_shown.mpr ⟨(placed.near_iff_mem_lines 1 placed.line).mp (placed.near_self 1),
          LineTable.index?_lt_count found⟩
      rw [if_neg wide, Group.rows_of_fault alone listed source located inside underlined]
      rfl

theorem Row.write_underline (width : Nat) (mark : Underline) :
    ∃ front, Row.write {} .error false [.underline width mark] =
      front ++ mark.label ++ "\n".toList := by
  refine ⟨Text.alignRight width [] ++ " │ ".toList ++ (List.replicate mark.indent ' ' ++
    (List.replicate mark.length "^".toList).flatten ++
      (if mark.continues then "...".toList else []) ++ " ".toList), ?_⟩
  simp [Row.write, Row.pieces, Row.gutterPieces, Row.underlineText, Piece.plain]

theorem Session.get?_addSource (session : Session) (source : Source) :
    (session.addSource source).2.sources.get? (session.addSource source).1 = some source := by
  simp [Session.addSource, Store.insert, Store.get?]

/-- A syntax error stops the session and is kept as one message. The message shows the line where
the error stands between the lines around it, and underlines the error there, unless it stands too
far to the right. -/
theorem Session.report_syntax_error (session : Session) {source : Source} {error : SyntaxError}
    (color : Bool) (failed : parse source.text = .error error)
    (short : source.text.size < Nat.pow 2 63) :
    let added := session.addSource source
    let diagnostic := error.diagnostic added.1
    let reported := added.2.report diagnostic
    reported.1 = false ∧ reported.2.reported = session.reported ++ [diagnostic] ∧
      '\n' ∉ error.cause.message ∧
      ∃ before after width mark, source.text = before ++ after ∧
        before.size = error.span.start ∧
        (∃ front, Row.write {} .error false [.underline width mark] =
          front ++ error.cause.message ++ "\n".toList) ∧
        reported.2.draw diagnostic {} color =
          if columns (source.lead before) ≤ maxIndent then
            .ok (Row.write {} .error color
              (errorRows source (before.count '\n' + 1) (before.lastLine.size + 1) width mark))
          else .error .wideIndent := by
  obtain ⟨before, after, split, size, width, mark, label, drawn⟩ :=
    SyntaxError.draw_diagnostic failed short (session.get?_addSource source)
  have single := (arises_of_parse failed).newline_notMem_message
  refine ⟨rfl, rfl, single, before, after, width, mark, split, size, ?_, drawn⟩
  rw [← label]
  exact Row.write_underline width mark

/-- A bracket that opens no block, at the start of the second line. -/
theorem Session.report_missing_bracket :
    let source := Source.inline "main.b".toList "global\n(A".toList
    let error : SyntaxError :=
      ⟨.expected (.token (.symbol .sectBra)) ⟨.symbol .rBra, "(".toList⟩, ⟨7, 8⟩⟩
    parse source.text = .error error ∧ ∃ width mark,
      ((({} : Session).addSource source).2.report (error.diagnostic 0)).2.draw
        (error.diagnostic 0) {} true =
          .ok (Row.write {} .error true (errorRows source 2 1 width mark)) := by
  intro source error
  have failed : parse source.text = .error error := by decide +kernel
  have short : source.text.size < Nat.pow 2 63 := by decide +kernel
  obtain ⟨_, _, _, before, after, width, mark, split, size, _, drawn⟩ :=
    Session.report_syntax_error {} true failed short
  have parts : source.text = "global\n".toList ++ "(A".toList := by decide +kernel
  obtain rfl : before = "global\n".toList :=
    Text.eq_of_append_eq_append (split.symm.trans parts) (size.trans (by decide +kernel))
  have narrow : columns (source.lead "global\n".toList) ≤ maxIndent := by decide +kernel
  have line : "global\n".toList.count '\n' + 1 = 2 := by decide +kernel
  have column : (Text.lastLine "global\n".toList).size + 1 = 1 := by decide +kernel
  rw [if_pos narrow, line, column] at drawn
  exact ⟨failed, width, mark, drawn⟩

end Bcpl
