import Bcpl.Proofs.Grammar.ErrorSource
import Bcpl.Proofs.Lexing.TokenText
import Bcpl.Proofs.Text.SingleLine

/-!
What a syntax error says is one line of text (`newline_notMem_message`), and what it points at is
cut out of the text between two characters (`boundary`).
-/

namespace Bcpl

theorem Kind.newline_notMem_description (kind : Kind) : '\n' ∉ kind.description := by
  cases kind with
  | symbol mark => cases mark <;> decide
  | keyword word => cases word <;> decide
  | illegal | eof | comment | name | number | stringConst => decide

theorem Lexeme.newline_notMem_description (lexeme : Lexeme) : '\n' ∉ lexeme.description := by
  have kind := lexeme.kind.newline_notMem_description
  have escaped := Text.newline_notMem_escape lexeme.text
  obtain ⟨which, text⟩ := lexeme
  cases which with
  | eof | symbol _ | keyword _ => exact kind
  | illegal | comment | name | number | stringConst =>
      exact List.not_mem_append (List.not_mem_append (List.not_mem_append kind (by decide)) escaped)
        (by decide)

theorem Expectation.newline_notMem_description (expectation : Expectation) :
    '\n' ∉ expectation.description := by
  cases expectation with
  | token kind => exact kind.newline_notMem_description
  | item | equalsOrColon | commaOrEquals => decide

namespace SyntaxError.Arises

variable {text : Text} {error : SyntaxError} (arises : error.Arises (plainTokens text))
include arises

theorem newline_notMem_message : '\n' ∉ error.cause.message := by
  cases arises with
  | @refused token listed expectation =>
      simp only [Token.refusal]
      split
      · next illegal =>
          split
          · decide
          · next unquoted =>
              have single := newline_notMem_text (List.mem_of_mem_filter listed)
                (.inr ⟨illegal, unquoted⟩)
              exact List.not_mem_append (List.not_mem_append (by decide) single) (by decide)
      · have expected := expectation.newline_notMem_description
        have found := token.toLexeme.newline_notMem_description
        exact List.not_mem_append (List.not_mem_append
          (List.not_mem_append (by decide) expected) (by decide)) found
  | oversized listed kind =>
      have digits := newline_notMem_text (List.mem_of_mem_filter listed) (.inl kind)
      exact List.not_mem_append (List.not_mem_append (by decide) digits) (by decide)
  | arity _ _ names values =>
      have first := Text.newline_notMem_toDigits 10 names
      have second := Text.newline_notMem_toDigits 10 values
      exact List.not_mem_append (List.not_mem_append
        (List.not_mem_append first (by decide)) second) (by decide)

theorem boundary : text.Boundary error.span.start ∧ text.Boundary error.span.stop := by
  cases arises with
  | refused listed | oversized listed =>
      have stands := stands_of_mem_lex (List.mem_of_mem_filter listed)
      exact ⟨stands.start, stands.stop⟩
  | @arity first last firstListed lastListed =>
      have first := stands_of_mem_lex (List.mem_of_mem_filter firstListed)
      have last := stands_of_mem_lex (List.mem_of_mem_filter lastListed)
      simp only [Span.join, min_def, max_def]
      constructor <;> split
      · exact first.start
      · exact last.start
      · exact last.stop
      · exact first.stop

end SyntaxError.Arises

end Bcpl
