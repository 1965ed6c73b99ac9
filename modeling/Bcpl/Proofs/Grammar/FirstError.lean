import Bcpl.Proofs.Grammar.TokenRun

/-!
Where a parser stops. If a text is not parsed, some of its tokens are accepted and the one behind
them is rejected: either what it shows to be complete is wrong, or the token itself is refused.
-/

namespace Bcpl

namespace Position

/-- A token cannot stand at a position. The end of the file can stand between two items only. -/
def Refuses (position : Position) (token : Token) : Prop :=
  if token.kind = .eof then position ≠ .item else position.after? token = none

end Position

namespace Parser

variable {parser behind : Parser} {token : Token} {error : SyntaxError}

/-- The error at a token that ends the run of a parser. -/
def Rejects (parser : Parser) (token : Token) (error : SyntaxError) : Prop :=
  if token.kind = .eof then parser.finish token = .error error
  else parser.accept token = .error error

theorem Rejects.cases (rejects : parser.Rejects token error) :
    parser.settle token.kind = .error error ∨
      ∃ events settled, parser.settle token.kind = .ok (events, settled) ∧
        settled.position.Refuses token ∧
        error = token.refusal settled.position.expectation := by
  unfold Rejects at rejects
  cases settles : parser.settle token.kind with
  | error reason =>
      apply Or.inl
      split at rejects
      · simp only [finish, settles, bind, Except.bind, Except.error.injEq] at rejects
        rw [rejects]
      · simp only [accept, settles, bind, Except.bind, Except.error.injEq] at rejects
        rw [rejects]
  | ok result =>
      obtain ⟨events, settled⟩ := result
      refine .inr ⟨events, settled, rfl, ?_⟩
      unfold Position.Refuses
      split at rejects
      · next ended =>
          rw [if_pos ended]
          simp only [finish, settles, bind, Except.bind, close] at rejects
          split at rejects
          · contradiction
          · next unfinished =>
              cases rejects
              exact ⟨unfinished, rfl⟩
      · next unfinished =>
          rw [if_neg unfinished]
          simp only [accept, settles, bind, Except.bind, read] at rejects
          split at rejects
          · contradiction
          · next refused =>
              cases rejects
              exact ⟨refused, rfl⟩

theorem exists_rejected_of_foldlM {tokens : List Token}
    (failed : tokens.foldlM accept parser = .error error) :
    ∃ front token back behind, tokens = front ++ token :: back ∧
      front.foldlM accept parser = .ok behind ∧ behind.accept token = .error error := by
  induction tokens generalizing parser with
  | nil => contradiction
  | cons token rest ih =>
      rw [List.foldlM_cons] at failed
      cases first : parser.accept token with
      | error reason =>
          rw [first] at failed
          cases failed
          exact ⟨[], token, rest, parser, rfl, rfl, first⟩
      | ok next =>
          rw [first] at failed
          obtain ⟨front, stopped, back, behind, rfl, accepted, rejects⟩ := ih failed
          refine ⟨token :: front, stopped, back, behind, rfl, ?_, rejects⟩
          rw [List.foldlM_cons, first]
          exact accepted

end Parser

/-- The tokens of a text without its comments. -/
def plainTokens (text : Text) : List Token := (lex text).filter (·.kind ≠ .comment)

theorem plainTokens_eq (text : Text) :
    plainTokens text = significantTokens text ++ [⟨⟨.eof, []⟩, Span.empty text.size⟩] ∧
      ∀ token ∈ significantTokens text, token.kind ≠ .eof := by
  obtain ⟨chunks, layout⟩ := Layout.exists_chunks text
  obtain ⟨front, split, unfinished⟩ := layout.exists_weave_eq false 0
  rw [← layout.lex_eq, Nat.zero_add] at split
  have kept : plainTokens text =
      front.filter (·.kind ≠ .comment) ++ [⟨⟨.eof, []⟩, Span.empty text.size⟩] := by
    rw [plainTokens, split, List.filter_append]
    simp
  have significant : significantTokens text = front.filter (·.kind ≠ .comment) := by
    change (plainTokens text).dropLast = _
    rw [kept, List.dropLast_concat]
  refine ⟨by rw [kept, significant], ?_⟩
  intro token member
  rw [significant] at member
  exact unfinished token (List.mem_of_mem_filter member)

theorem exists_rejected_of_parse {text : Text} {error : SyntaxError}
    (failed : parse text = .error error) :
    ∃ front token back behind, plainTokens text = front ++ token :: back ∧
      front.foldlM Parser.accept {} = .ok behind ∧ behind.Rejects token error := by
  obtain ⟨split, unfinished⟩ := plainTokens_eq text
  rw [parse_eq_accepted] at failed
  cases accepted : (significantTokens text).foldlM Parser.accept {} with
  | ok behind =>
      rw [accepted] at failed
      refine ⟨significantTokens text, _, [], behind, split, accepted, ?_⟩
      rw [Parser.Rejects, if_pos rfl]
      exact failed
  | error reason =>
      rw [accepted] at failed
      cases failed
      obtain ⟨front, token, back, behind, parts, before, rejects⟩ :=
        Parser.exists_rejected_of_foldlM accepted
      have significant : token.kind ≠ .eof := unfinished token (by rw [parts]; simp)
      refine ⟨front, token, back ++ [⟨⟨.eof, []⟩, Span.empty text.size⟩], behind, ?_, before, ?_⟩
      · rw [split, parts, List.append_assoc, List.cons_append]
      · rw [Parser.Rejects, if_neg significant]
        exact rejects

/-- A token that is rejected behind accepted ones ends the run. -/
theorem parse_eq_error_of_rejects {text : Text} {error : SyntaxError} {front back : List Token}
    {token : Token} {behind : Parser} (split : plainTokens text = front ++ token :: back)
    (accepted : front.foldlM Parser.accept {} = .ok behind)
    (rejects : behind.Rejects token error) : parse text = .error error := by
  obtain ⟨whole, unfinished⟩ := plainTokens_eq text
  rw [split] at whole
  rw [parse_eq_accepted]
  unfold Parser.Rejects at rejects
  rcases List.eq_nil_or_concat back with rfl | ⟨others, last, rfl⟩
  · obtain ⟨rfl, same⟩ := List.append_inj' whole rfl
    obtain rfl := List.singleton_inj.mp same
    rw [if_pos rfl] at rejects
    rw [accepted]
    exact rejects
  · rw [List.concat_eq_append, ← List.cons_append, ← List.append_assoc] at whole
    have significant := (List.append_inj' whole rfl).1
    have refused : token.kind ≠ .eof := unfinished token (by rw [← significant]; simp)
    rw [if_neg refused] at rejects
    rw [← significant, List.foldlM_append, accepted]
    change ((behind.accept token >>= fun next => others.foldlM Parser.accept next) >>= _) = _
    rw [rejects]
    rfl

end Bcpl
