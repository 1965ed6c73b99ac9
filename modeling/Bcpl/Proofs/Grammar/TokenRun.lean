import Bcpl.Parser.Basic
import Bcpl.Proofs.Lexing.Lossless
import Bcpl.Proofs.Results

/-!
A parser that takes its tokens from a lexer gives the result of one that takes them from the list of
all tokens (`run_result_tokens`), and that is to accept the significant tokens one after the other
and to finish at the end of the file (`parse_eq_accepted`).
-/

namespace Bcpl

namespace Parser

/-- Settle what a token shows to be complete, and read the token. -/
def accept (parser : Parser) (token : Token) : Except SyntaxError Parser := do
  let settled ← parser.settle token.kind
  settled.2.read token

/-- Settle what the end of the file shows to be complete, and end the program. -/
def finish (parser : Parser) (token : Token) : Except SyntaxError Program := do
  let settled ← parser.settle token.kind
  settled.2.close token

theorem read_eq_ok_iff {parser behind : Parser} {token : Token} :
    parser.read token = .ok behind ↔
      ∃ position, parser.position.after? token = some position ∧
        behind = ⟨parser.program, position⟩ := by
  unfold read
  cases parser.position.after? token with
  | none => simp
  | some position => simp [eq_comm]

theorem read_eq_error_iff {parser : Parser} {token : Token} {error : SyntaxError} :
    parser.read token = .error error ↔
      parser.position.after? token = none ∧
        error = token.refusal parser.position.expectation := by
  unfold read
  cases parser.position.after? token with
  | none => simp [eq_comm]
  | some position => simp

/-- What is accepted is settled and then takes the parser to another position. -/
theorem exists_of_accept {parser behind : Parser} {token : Token}
    (accepts : parser.accept token = .ok behind) :
    ∃ settled position, parser.settle token.kind = .ok settled ∧
      settled.2.position.after? token = some position ∧
      behind = ⟨settled.2.program, position⟩ := by
  obtain ⟨settled, settles, reads⟩ := bind_eq_ok_iff.mp accepts
  obtain ⟨position, found, same⟩ := read_eq_ok_iff.mp reads
  exact ⟨settled, position, settles, found, same⟩

section Source

variable {σ : Type} [TokenSource σ] (parser : Parser) (source : σ)

theorem run_result_of_comment (comment : (TokenSource.next source).1.kind = .comment) :
    (run parser source).result = (run parser (TokenSource.next source).2).result := by
  rw [run]
  simp only [comment, if_true, Report.after]

theorem run_result_of_eof (ended : (TokenSource.next source).1.kind = .eof) :
    (run parser source).result = parser.finish (TokenSource.next source).1 := by
  have significant : (TokenSource.next source).1.kind ≠ .comment := by simp [ended]
  rw [run, finish]
  simp only [if_neg significant]
  cases parser.settle (TokenSource.next source).1.kind with
  | error error => rfl
  | ok settled => simp only [ended, if_true, bind, Except.bind]

theorem run_result_of_token (significant : (TokenSource.next source).1.kind ≠ .comment)
    (unfinished : (TokenSource.next source).1.kind ≠ .eof) :
    (run parser source).result = parser.accept (TokenSource.next source).1 >>=
      fun behind => (run behind (TokenSource.next source).2).result := by
  rw [run, accept]
  simp only [if_neg significant, if_neg unfinished]
  cases parser.settle (TokenSource.next source).1.kind with
  | error error => rfl
  | ok settled =>
      obtain ⟨events, settled⟩ := settled
      cases read : settled.read (TokenSource.next source).1 with
      | error error => simp only [bind, Except.bind, read]
      | ok behind => simp only [bind, Except.bind, read, Report.after]

end Source

theorem run_result_tokens (parser : Parser) (lexer : Lexer) :
    (run parser lexer).result = (run parser lexer.tokens).result := by
  fun_induction Lexer.tokens lexer generalizing parser with
  | case1 lexer step ended =>
      rw [run_result_of_eof parser lexer ended,
        run_result_of_eof parser [step.1] ended]
      rfl
  | case2 lexer step unfinished ih =>
      by_cases comment : step.1.kind = .comment
      · rw [run_result_of_comment parser lexer comment,
          run_result_of_comment parser (step.1 :: step.2.tokens) comment]
        exact ih parser
      · rw [run_result_of_token parser lexer comment unfinished,
          run_result_of_token parser (step.1 :: step.2.tokens) comment unfinished]
        exact congrArg _ (funext ih)

theorem run_result_list {front : List Token} {last : Token} (ended : last.kind = .eof)
    (unfinished : ∀ token ∈ front, token.kind ≠ .eof) (parser : Parser) :
    (run parser (front ++ [last])).result =
      (front.filter (·.kind ≠ .comment)).foldlM accept parser >>= (finish · last) := by
  induction front generalizing parser with
  | nil => exact run_result_of_eof parser [last] ended
  | cons token front ih =>
      have others := fun next member => unfinished next (List.mem_cons_of_mem token member)
      by_cases comment : token.kind = .comment
      · rw [List.cons_append,
          run_result_of_comment parser (token :: (front ++ [last])) comment,
          List.filter_cons_of_neg (by simp [comment])]
        exact ih others parser
      · rw [List.cons_append, run_result_of_token parser (token :: (front ++ [last]))
          comment (unfinished token List.mem_cons_self),
          List.filter_cons_of_pos (by simp [comment]), List.foldlM_cons, bind_assoc]
        exact congrArg _ (funext (ih others))

end Parser

/-- The tokens of a text that matter to a parser: neither comments nor the end of the file. -/
def significantTokens (text : Text) : List Token :=
  ((lex text).filter (·.kind ≠ .comment)).dropLast

theorem ne_comment_of_mem_significantTokens {text : Text} {token : Token}
    (member : token ∈ significantTokens text) : token.kind ≠ .comment := by
  simpa using (List.mem_filter.mp (List.dropLast_subset _ member)).2

theorem mem_lex_of_mem_significantTokens {text : Text} {token : Token}
    (member : token ∈ significantTokens text) : token ∈ lex text :=
  List.mem_of_mem_filter (List.dropLast_subset _ member)

theorem parse_eq_accepted (text : Text) :
    parse text = (significantTokens text).foldlM Parser.accept {} >>=
      (Parser.finish · ⟨⟨.eof, []⟩, Span.empty text.size⟩) := by
  obtain ⟨chunks, layout⟩ := Layout.exists_chunks text
  obtain ⟨front, split, unfinished⟩ := layout.exists_weave_eq false 0
  rw [← layout.lex_eq, Nat.zero_add] at split
  have result := Parser.run_result_tokens {} (Lexer.ofText text)
  change parse text = (Parser.run {} (lex text)).result at result
  rw [result, split, Parser.run_result_list rfl unfinished]
  have kept : significantTokens text = front.filter (·.kind ≠ .comment) := by
    rw [significantTokens, split, List.filter_append]
    simp
  rw [kept]

end Bcpl
