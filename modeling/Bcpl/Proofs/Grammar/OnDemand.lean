import Bcpl.Proofs.Grammar.FirstError
import Bcpl.Proofs.Grammar.Relabelling

/-!
Parsing on demand. A run of the parser takes tokens from its source one at a time and asks for no
more than it needs. What it takes from a lexer is a front part of the list of all tokens, and it
ends as it does on that list without the comments (`parse_on_demand`).
-/

namespace Bcpl

namespace Parser

/-- A run takes these tokens from a source, and no others, and ends with this result. -/
inductive Runs {σ : Type} [TokenSource σ] :
    Parser → σ → List Token → Except SyntaxError Program → Prop where
  | comment {parser : Parser} {source rest : σ} {token : Token} {tokens : List Token} {result}
      (step : TokenSource.next source = (token, rest)) (comment : token.kind = .comment)
      (behind : Runs parser rest tokens result) : Runs parser source (token :: tokens) result
  | accepted {parser following : Parser} {source rest : σ} {token : Token} {tokens : List Token}
      {result} (step : TokenSource.next source = (token, rest))
      (significant : token.kind ≠ .comment) (unfinished : token.kind ≠ .eof)
      (accepted : parser.accept token = .ok following)
      (behind : Runs following rest tokens result) : Runs parser source (token :: tokens) result
  | refused {parser : Parser} {source rest : σ} {token : Token} {error : SyntaxError}
      (step : TokenSource.next source = (token, rest))
      (significant : token.kind ≠ .comment) (unfinished : token.kind ≠ .eof)
      (refused : parser.accept token = .error error) : Runs parser source [token] (.error error)
  | ended {parser : Parser} {source rest : σ} {token : Token}
      (step : TokenSource.next source = (token, rest)) (ended : token.kind = .eof) :
      Runs parser source [token] (parser.finish token)

section Source

variable {σ : Type} [TokenSource σ]

/-- Every run ends. -/
theorem exists_runs (parser : Parser) (source : σ) :
    ∃ tokens, Runs parser source tokens (run parser source).result := by
  induction left : TokenSource.size source using Nat.strong_induction_on
    generalizing parser source with
  | _ size ih =>
      have behind (unfinished : (TokenSource.next source).1.kind ≠ .eof) (following : Parser) :=
        ih _ (left ▸ TokenSource.size_next_lt source unfinished) following
          (TokenSource.next source).2 rfl
      by_cases comment : (TokenSource.next source).1.kind = .comment
      · obtain ⟨tokens, runs⟩ := behind (by simp [comment]) parser
        rw [run_result_of_comment parser source comment]
        exact ⟨_, .comment rfl comment runs⟩
      · by_cases ended : (TokenSource.next source).1.kind = .eof
        · rw [run_result_of_eof parser source ended]
          exact ⟨_, .ended rfl ended⟩
        · rw [run_result_of_token parser source comment ended]
          cases accepted : parser.accept (TokenSource.next source).1 with
          | error error => exact ⟨_, .refused rfl comment ended accepted⟩
          | ok following =>
              obtain ⟨tokens, runs⟩ := behind ended following
              exact ⟨_, .accepted rfl comment ended accepted runs⟩

variable {parser : Parser} {source : σ} {tokens : List Token}
  {result : Except SyntaxError Program}

theorem Runs.unique (runs : Runs parser source tokens result) {others : List Token}
    {other : Except SyntaxError Program} (again : Runs parser source others other) :
    others = tokens ∧ other = result := by
  induction runs generalizing others other with
  | comment step comment behind ih =>
      cases again with
      | comment same _ rest =>
          cases step.symm.trans same
          obtain ⟨rfl, rfl⟩ := ih rest
          exact ⟨rfl, rfl⟩
      | accepted same | refused same =>
          cases step.symm.trans same
          contradiction
      | ended same ended =>
          cases step.symm.trans same
          simp [comment] at ended
  | accepted step significant unfinished accepted behind ih =>
      cases again with
      | comment same | ended same =>
          cases step.symm.trans same
          contradiction
      | accepted same _ _ again rest =>
          cases step.symm.trans same
          cases accepted.symm.trans again
          obtain ⟨rfl, rfl⟩ := ih rest
          exact ⟨rfl, rfl⟩
      | refused same _ _ refused =>
          cases step.symm.trans same
          cases accepted.symm.trans refused
  | refused step significant unfinished refused =>
      cases again with
      | comment same | ended same =>
          cases step.symm.trans same
          contradiction
      | accepted same _ _ accepted =>
          cases step.symm.trans same
          cases refused.symm.trans accepted
      | refused same _ _ again =>
          cases step.symm.trans same
          cases refused.symm.trans again
          exact ⟨rfl, rfl⟩
  | ended step ended =>
      cases again with
      | comment same comment =>
          cases step.symm.trans same
          simp [ended] at comment
      | accepted same | refused same =>
          cases step.symm.trans same
          contradiction
      | ended same =>
          cases step.symm.trans same
          exact ⟨rfl, rfl⟩

theorem Runs.result_eq (runs : Runs parser source tokens result) :
    (run parser source).result = result := by
  obtain ⟨_, same⟩ := exists_runs parser source
  exact (runs.unique same).2

/-- The tokens that a run takes may be handed out again by a list, whatever stands behind them. -/
theorem Runs.replay (runs : Runs parser source tokens result) (tail : List Token) :
    Runs parser (tokens ++ tail) tokens result := by
  induction runs with
  | comment step comment behind ih => exact .comment rfl comment ih
  | accepted step significant unfinished accepted behind ih =>
      exact .accepted rfl significant unfinished accepted ih
  | refused step significant unfinished refused => exact .refused rfl significant unfinished refused
  | ended step ended => exact .ended rfl ended

end Source

variable {parser : Parser} {lexer : Lexer} {tokens : List Token}
  {result : Except SyntaxError Program}

/-- A run asks a lexer for no token behind the first end of the file. -/
theorem Runs.isPrefix_tokens (runs : Runs parser lexer tokens result) :
    tokens <+: lexer.tokens := by
  induction runs with
  | comment step comment behind ih =>
      obtain ⟨rfl, rfl⟩ := Prod.mk.inj step
      rw [Lexer.tokens_of_ne_eof fun ended => Kind.noConfusion (comment.symm.trans ended)]
      exact List.cons_prefix_cons.mpr ⟨rfl, ih⟩
  | accepted step significant unfinished accepted behind ih =>
      obtain ⟨rfl, rfl⟩ := Prod.mk.inj step
      rw [Lexer.tokens_of_ne_eof unfinished]
      exact List.cons_prefix_cons.mpr ⟨rfl, ih⟩
  | refused step significant unfinished refused =>
      obtain ⟨rfl, rfl⟩ := Prod.mk.inj step
      rw [Lexer.tokens_of_ne_eof unfinished]
      exact List.cons_prefix_cons.mpr ⟨rfl, List.nil_prefix⟩
  | ended step ended =>
      obtain ⟨rfl, rfl⟩ := Prod.mk.inj step
      rw [Lexer.tokens_of_eof ended]
      exact List.prefix_refl _

end Parser

theorem run_plainTokens (text : Text) :
    (Parser.run {} (plainTokens text)).result = parse text := by
  obtain ⟨split, unfinished⟩ := plainTokens_eq text
  have plain : (significantTokens text).filter (·.kind ≠ .comment) = significantTokens text := by
    refine List.filter_eq_self.mpr fun token member => ?_
    simpa using ne_comment_of_mem_significantTokens member
  rw [split, Parser.run_result_list rfl unfinished, plain, parse_eq_accepted]

/-- Parsing ends. It takes a front part of the tokens of its text, whatever stands behind them, and
ends as on the list of those that are no comments. What it makes of them is the same wherever they
stand. -/
theorem parse_on_demand (text : Text) :
    (∃ pulled, pulled <+: lex text ∧
        (∀ tokens result, Parser.Runs {} (Lexer.ofText text) tokens result ↔
          tokens = pulled ∧ result = parse text) ∧
        ∀ tail, (Parser.run {} (pulled ++ tail)).result = parse text) ∧
      (Parser.run {} (plainTokens text)).result = parse text ∧
      ∀ other, (plainTokens other).map Token.toLexeme = (plainTokens text).map Token.toLexeme →
        (parse other).mapError SyntaxError.cause = (parse text).mapError SyntaxError.cause := by
  refine ⟨?_, run_plainTokens text, ?_⟩
  · obtain ⟨pulled, runs⟩ := Parser.exists_runs {} (Lexer.ofText text)
    refine ⟨pulled, runs.isPrefix_tokens, ?_, fun tail => (runs.replay tail).result_eq⟩
    intro tokens result
    constructor
    · intro again
      exact runs.unique again
    · rintro ⟨rfl, rfl⟩
      exact runs
  · intro other same
    have significant := congrArg List.dropLast same
    rw [← List.map_dropLast, ← List.map_dropLast] at significant
    have outcomes : outcome id id (parse other) = _ := parse_relabelled .same significant
    rw [← Relabelling.outcome_parse_same] at outcomes
    have cause (result : Except SyntaxError Program) :
        outcome id id result = result.mapError SyntaxError.cause := by
      cases result <;> rfl
    rwa [cause, cause] at outcomes

end Bcpl
