import Bcpl.Proofs.Grammar.Relabelling
import Bcpl.Proofs.Lexing.LineEndings

/-!
A text means the same whether its lines end in a line feed or in a carriage return and a line feed
(`parse_dropReturns`).
-/

namespace Bcpl

theorem Text.IsName.newline_notMem {name : Text} (named : name.IsName) : '\n' ∉ name :=
  fun inside => absurd (named.plain '\n' inside) (by decide)

/-- Lexemes lose their carriage returns. Names and numbers have none to lose. -/
def Relabelling.dropReturns : Relabelling where
  rename := id
  lexeme old := if old.kind = .name ∨ old.kind = .number then old else old.dropReturns
  kind old := by split <;> rfl
  name old name := by simp [name]
  number old number := by simp [number]
  quoted old illegal := by
    rw [if_neg (by simp [illegal])]
    exact Text.head?_dropReturns_iff (by decide) (by decide)
  eof := rfl

theorem Relabelling.dropReturns_of_mem_lex {text : Text} {token : Token}
    (member : token ∈ lex text) :
    dropReturns.lexeme token.toLexeme = token.toLexeme.dropReturns := by
  have unbroken (short : '\n' ∉ token.text) : token.toLexeme.dropReturns = token.toLexeme := by
    rw [Lexeme.dropReturns, Text.dropReturns_of_notMem (.inr short)]
  by_cases plain : token.kind = .name ∨ token.kind = .number
  · refine (if_pos plain).trans (unbroken ?_).symm
    rcases plain with name | number
    · exact (isName_of_mem_lex member name).newline_notMem
    · exact newline_notMem_text member (.inl number)
  · exact if_neg plain

theorem significantTokens_dropReturns (text : Text) :
    (significantTokens text.dropReturns).map Token.toLexeme =
      (significantTokens text).map fun token =>
        Relabelling.dropReturns.lexeme token.toLexeme := by
  have dropped := significantTokens_relabelled Chunk.respelling_dropReturns.kind
    (lex_dropReturns text)
  refine dropped.trans (List.map_congr_left fun token member => ?_)
  have listed : token ∈ significantTokens text := member
  exact (Relabelling.dropReturns_of_mem_lex (mem_lex_of_mem_significantTokens listed)).symm

/-- Carriage returns in front of line feeds may be left out of a text. The tokens keep their kinds,
and their texts but for those carriage returns, and the text holds the same program or is refused
for the same thing. -/
theorem parse_dropReturns (text : Text) :
    (lex text.dropReturns).map Token.toLexeme =
        (lex text).map (fun token => ⟨token.kind, token.text.dropReturns⟩) ∧
      (parse text.dropReturns).mapError SyntaxError.variant =
        (parse text).mapError SyntaxError.variant := by
  refine ⟨lex_dropReturns text, ?_⟩
  rw [mapError_variant_relabelled Relabelling.dropReturns (significantTokens_dropReturns text)]
  cases parsed : parse text with
  | error error => rfl
  | ok program =>
      have kept : program.mapNames id = program :=
        Program.mapNames_eq_self (fun _ _ => rfl) (wellFormed_of_parse parsed)
      exact congrArg Except.ok kept

/-- Of two carriage returns in front of a line feed only the second belongs to the line ending. -/
example :
    (lex "A\r\nB // x\r\r\n".toList).map Token.toLexeme =
        [⟨.name, "A".toList⟩, ⟨.symbol .semicolon, ";".toList⟩, ⟨.name, "B".toList⟩,
          ⟨.comment, "// x\r\r\n".toList⟩, ⟨.eof, []⟩] ∧
      (lex "A\nB // x\r\n".toList).map Token.toLexeme =
        [⟨.name, "A".toList⟩, ⟨.symbol .semicolon, ";".toList⟩, ⟨.name, "B".toList⟩,
          ⟨.comment, "// x\r\n".toList⟩, ⟨.eof, []⟩] := by
  decide +kernel

end Bcpl
