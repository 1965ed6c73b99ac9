import Bcpl.Proofs.Grammar.FirstError
import Bcpl.Proofs.Grammar.Step

/-!
Which tokens of a text an error is about (`arises_of_parse`). A parser remembers the first name of
a definition and its last value, and an error tells of one of these or of the token it stops at.
-/

namespace Bcpl

/-- An error is about some of the tokens. -/
inductive SyntaxError.Arises (tokens : List Token) : SyntaxError → Prop where
  | refused {token : Token} (listed : token ∈ tokens) (expectation : Expectation) :
      Arises tokens (token.refusal expectation)
  | oversized {number : Token} (listed : number ∈ tokens) (kind : number.kind = .number) :
      Arises tokens ⟨.numberTooLarge number.text, number.span⟩
  | arity {first last : Token} (firstListed : first ∈ tokens) (lastListed : last ∈ tokens)
      (names values : Nat) :
      Arises tokens ⟨.arityMismatch names values, first.span.join last.span⟩

namespace Position

/-- What a position remembers of a text are tokens of it. -/
def Remembers (tokens : List Token) : Position → Prop
  | .firstMark binding | .nextName binding | .nextMark binding | .body binding
  | .vectorSize binding | .value binding _ => binding.first ∈ tokens
  | .valueEnd binding _ last => binding.first ∈ tokens ∧ ∃ token ∈ tokens, token.span = last
  | .oversized number => number ∈ tokens ∧ number.kind = .number
  | _ => True

variable {tokens : List Token} {position behind : Position} {token : Token}

theorem remembers_afterNumber {next : Int → Position} (listed : token ∈ tokens)
    (kind : token.kind = .number) (others : ∀ value, (next value).Remembers tokens) :
    (afterNumber token next).Remembers tokens := by
  rcases afterNumber_cases token next with ⟨value, same⟩ | same <;> rw [same]
  · exact others value
  · exact ⟨listed, kind⟩

theorem Step.remembers (step : Step token position behind) (listed : token ∈ tokens)
    (remembers : position.Remembers tokens) : behind.Remembers tokens := by
  cases step with
  | firstName kind => exact listed
  | firstComma kind | firstEquals kind | nextName kind | nextComma kind | nextEquals kind
  | vector kind => exact remembers
  | valueComma kind => exact remembers.1
  | firstValue kind | value kind =>
      exact remembers_afterNumber listed kind fun _ => ⟨remembers, token, listed, rfl⟩
  | entryValue kind | size kind =>
      exact remembers_afterNumber listed kind fun _ => trivial
  | block | define | bracket | entryName | entryMark | semicolon | close | joined => trivial

end Position

namespace Parser

variable {tokens : List Token} {parser behind : Parser} {token : Token} {kind : Kind}
  {error : SyntaxError}

/-- To settle what is complete leaves a parser where it is, or behind a complete item. -/
theorem settle_cases {settled : List Event × Parser} (settles : parser.settle kind = .ok settled) :
    settled.2 = parser ∨ settled.2.position = .item ∨
      ∃ definition, settled.2.position = .defEnd definition := by
  have complete (program : Program) (definition : Def) :
      (settleDef program definition kind).2.position = .item ∨
        ∃ definition', (settleDef program definition kind).2.position = .defEnd definition' := by
    unfold settleDef
    split
    · exact .inr ⟨definition, rfl⟩
    · exact .inl rfl
  unfold settle at settles
  split at settles
  · cases settles
    exact .inr (.inl rfl)
  · split at settles <;> cases settles <;> exact .inl rfl
  · split at settles
    · cases settles
      exact .inl rfl
    · split at settles <;> cases settles
      exact .inr (complete _ _)
  · cases settles
    exact .inr (complete _ _)
  · contradiction
  · cases settles
    exact .inl rfl

theorem settle_arises (remembers : parser.position.Remembers tokens)
    (failed : parser.settle kind = .error error) : error.Arises tokens := by
  unfold settle at failed
  split at failed
  · contradiction
  · split at failed <;> contradiction
  · next binding values last here =>
      rw [here] at remembers
      obtain ⟨firstListed, token, lastListed, rfl⟩ := remembers
      split at failed
      · contradiction
      · split at failed <;> cases failed
        exact .arity firstListed lastListed _ _
  · contradiction
  · next number here =>
      rw [here] at remembers
      cases failed
      exact .oversized remembers.1 remembers.2
  · contradiction

theorem settle_remembers {settled : List Event × Parser}
    (remembers : parser.position.Remembers tokens) (settles : parser.settle kind = .ok settled) :
    settled.2.position.Remembers tokens := by
  rcases settle_cases settles with same | same | ⟨definition, same⟩ <;> rw [same]
  · exact remembers
  all_goals trivial

theorem accept_remembers (listed : token ∈ tokens) (remembers : parser.position.Remembers tokens)
    (accepts : parser.accept token = .ok behind) : behind.position.Remembers tokens := by
  obtain ⟨settled, position, settles, found, rfl⟩ := exists_of_accept accepts
  exact (Position.step_of_after found).remembers listed (settle_remembers remembers settles)

theorem acceptAll_remembers {front : List Token} (listed : ∀ token ∈ front, token ∈ tokens)
    (remembers : parser.position.Remembers tokens)
    (accepts : front.foldlM accept parser = .ok behind) : behind.position.Remembers tokens := by
  induction front generalizing parser with
  | nil =>
      cases accepts
      exact remembers
  | cons token rest ih =>
      obtain ⟨first, others⟩ := List.forall_mem_cons.mp listed
      obtain ⟨next, accepted, accepts⟩ := foldlM_cons_eq_ok_iff.mp accepts
      exact ih others (accept_remembers first remembers accepted) accepts

end Parser

theorem arises_of_parse {text : Text} {error : SyntaxError} (failed : parse text = .error error) :
    error.Arises (plainTokens text) := by
  obtain ⟨front, token, back, behind, split, accepts, rejects⟩ := exists_rejected_of_parse failed
  have within : ∀ each ∈ front, each ∈ plainTokens text := by
    intro each member
    rw [split]
    exact List.mem_append_left _ member
  have listed : token ∈ plainTokens text := by simp [split]
  have start : ({} : Parser).position.Remembers (plainTokens text) := trivial
  have remembers := Parser.acceptAll_remembers within start accepts
  rcases rejects.cases with failed | ⟨events, settled, _, _, rfl⟩
  · exact Parser.settle_arises remembers failed
  · exact .refused listed _

end Bcpl
