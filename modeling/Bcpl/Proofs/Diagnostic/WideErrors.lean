import Bcpl.Proofs.Diagnostic.SyntaxErrors
import Bcpl.Proofs.Text.Columns

/-!
Errors that stand too far to the right. Behind too many blanks a character that starts no token is
found, but the message about it is not drawn (`Session.wide_error_not_drawn`).
-/

namespace Bcpl

section Blanks

variable (count : Nat)

theorem columns_replicate : columns (List.replicate count ' ') = count := by
  have width : Text.width (List.replicate count ' ') = (List.replicate count ' ').length :=
    Text.width_of_ascii fun _ => Text.ascii_of_mem_replicate
  simp [columns, width, List.count_replicate]

theorem Text.size_replicate : size (List.replicate count ' ') = count := by
  induction count with
  | zero => rfl
  | succ count ih =>
      have one : Char.utf8Size ' ' = 1 := by decide
      rw [List.replicate_succ, size, ih, one, Nat.add_comm]

theorem lex_indented : lex (List.replicate count ' ' ++ ['#']) =
    [⟨⟨.illegal, ['#']⟩, ⟨count, count + 1⟩⟩, ⟨⟨.eof, []⟩, ⟨count + 1, count + 1⟩⟩] := by
  have blank : ∀ c ∈ List.replicate count ' ', Lexer.isBlank c = true := by
    intro c member
    rw [List.eq_of_mem_replicate member]
    decide
  have visible : Lexeme.Visible ⟨.illegal, ['#']⟩ := ⟨'#', [], rfl, by decide⟩
  have layout : Layout (List.replicate count ' ' ++ (['#'] ++ []))
      [⟨List.replicate count ' ', ⟨.illegal, ['#']⟩⟩, ⟨[], ⟨.eof, []⟩⟩] :=
    .lexeme blank visible (by decide) (by simp [Lexeme.EndsBefore]) (.finish (by simp))
  have tokens := layout.lex_eq
  simp only [placed, Text.size_replicate, Nat.zero_add, Text.size, Nat.add_zero] at tokens
  rw [List.append_nil] at tokens
  rw [tokens]
  rfl

theorem parse_indented : parse (List.replicate count ' ' ++ ['#']) =
    .error ⟨.lexical ['#'], ⟨count, count + 1⟩⟩ := by
  rw [parse_eq_accepted, significantTokens, lex_indented]
  rfl

theorem lead_indented (name : Text) :
    (Source.inline name (List.replicate count ' ' ++ ['#'])).lead (List.replicate count ' ') =
      List.replicate count ' ' := by
  have single : '\n' ∉ List.replicate count ' ' ++ ['#'] := by simp [List.mem_replicate]
  have lines := Line.linesFrom_of_not_mem single 0
  have shown : Line.shown ⟨0, List.replicate count ' ' ++ ['#']⟩ =
      List.replicate count ' ' ++ ['#'] := by
    simp [Line.shown]
  have line : (Source.inline name (List.replicate count ' ' ++ ['#'])).lines.line? 0 =
      some (List.replicate count ' ' ++ ['#']) := by
    rw [LineTable.line?_eq]
    change (Line.linesFrom 0 (List.replicate count ' ' ++ ['#']))[0]?.map Line.shown = _
    rw [lines]
    exact congrArg some shown
  have last : Text.lastLine (List.replicate count ' ') = List.replicate count ' ' := by
    rw [Text.lastLine, List.rtakeWhile_eq_self_iff]
    simp [List.mem_replicate]
  have none : (List.replicate count ' ').count '\n' = 0 := by simp [List.count_replicate]
  rw [Source.lead, none, line, last, Option.getD_some, List.take_left]

/-- An error behind too many blanks is not drawn. -/
theorem Session.wide_error_not_drawn (session : Session) (name : Text) (color : Bool)
    (wide : maxIndent < count) (short : count + 1 < Nat.pow 2 63) :
    let source := Source.inline name (List.replicate count ' ' ++ ['#'])
    let added := session.addSource source
    let error : SyntaxError := ⟨.lexical ['#'], ⟨count, count + 1⟩⟩
    parse source.text = .error error ∧
      added.2.draw (error.diagnostic added.1) {} color = .error .wideIndent := by
  intro source added error
  have failed : parse source.text = .error error := parse_indented count
  have size : source.text.size = count + 1 := by
    change Text.size (List.replicate count ' ' ++ ['#']) = _
    rw [Text.size_append, Text.size_replicate]
    rfl
  obtain ⟨before, after, split, start, width, mark, _, drawn⟩ :=
    SyntaxError.draw_diagnostic failed (size ▸ short) (session.get?_addSource source)
  obtain rfl : before = List.replicate count ' ' :=
    Text.eq_of_append_eq_append split.symm (start.trans (Text.size_replicate count).symm)
  have far : ¬ columns (source.lead (List.replicate count ' ')) ≤ maxIndent := by
    rw [lead_indented, columns_replicate]
    exact Nat.not_le.mpr wide
  rw [if_neg far] at drawn
  exact ⟨failed, drawn⟩

theorem Session.error_behind_65536_blanks_not_drawn :
    let source := Source.inline "main.b".toList (List.replicate 65536 ' ' ++ ['#'])
    let added := ({} : Session).addSource source
    let error : SyntaxError := ⟨.lexical ['#'], ⟨65536, 65537⟩⟩
    parse source.text = .error error ∧
      added.2.draw (error.diagnostic added.1) {} false = .error .wideIndent :=
  Session.wide_error_not_drawn 65536 {} "main.b".toList false (by decide) (by decide)

end Blanks

end Bcpl
