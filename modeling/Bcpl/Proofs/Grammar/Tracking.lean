import Bcpl.Proofs.Grammar.ErrorSource

/-!
Where a parser is in a definition. The tokens that it has accepted end with the names and values it
counts, from the token of the first name to that of the last value (`Position.Tracks`).
-/

namespace Bcpl

open Grammar

namespace Grammar

/-- The names of a definition, with commas between them. -/
def Names (binding : Binding) (lexemes : List Lexeme) : Prop :=
  Separated Name (.symbol .comma) lexemes binding.names

/-- A definition from its first name up to the last of some values. -/
def Bound (binding : Binding) (values : List Int) (lexemes : List Lexeme) : Prop :=
  ∃ left right, lexemes = left ++ right ∧ Followed (Names binding) (.symbol .eq) left ∧
    Separated Number (.symbol .comma) right values

end Grammar

namespace Position

def first? : Position → Option Token
  | .firstMark binding | .nextName binding | .nextMark binding | .body binding
  | .value binding _ | .valueEnd binding _ _ => some binding.first
  | _ => none

def last? : Position → Option Span
  | .valueEnd _ _ last => some last
  | _ => none

/-- The part of a definition that lies in front of a position, without what the definition begins
with. -/
def Inside : Position → List Lexeme → Prop
  | .firstMark binding | .nextMark binding => Names binding
  | .nextName binding => Followed (Names binding) (.symbol .comma)
  | .body binding => Followed (Names binding) (.symbol .eq)
  | .value binding values => Followed (Bound binding values) (.symbol .comma)
  | .valueEnd binding values _ => Bound binding values
  | _ => fun _ => True

/-- What a position says about the tokens in front of it. -/
structure Tracks (position : Position) (tokens : List Token) : Prop where
  definition : ∀ first ∈ position.first?, first.kind = .name ∧
    ∃ before behind, tokens = before ++ first :: behind ∧
      position.Inside ((first :: behind).map Token.toLexeme) ∧
      ∀ last ∈ position.last?, ∃ token ∈ (first :: behind).getLast?,
        token.kind = .number ∧ token.span = last
  oversized : ∀ number, position = .oversized number → number ∈ tokens ∧
    number.kind = .number ∧ maxNumber < Text.ofDecimal number.text

variable {position behind : Position} {tokens : List Token} {token : Token}

/-- Outside of a definition there is nothing to keep in mind. -/
theorem Tracks.outside (none : position.first? = none)
    (fits : ∀ number, position ≠ .oversized number) : position.Tracks tokens where
  definition first found := by simp [none] at found
  oversized number same := absurd same (fits number)

/-- A token goes on with the definition it stands in. -/
theorem Tracks.onward (tracks : position.Tracks tokens) (same : behind.first? = position.first?)
    (fits : ∀ number, behind ≠ .oversized number)
    (next : ∀ lexemes, position.Inside lexemes → behind.Inside (lexemes ++ [token.toLexeme]))
    (ended : ∀ last ∈ behind.last?, token.kind = .number ∧ token.span = last) :
    behind.Tracks (tokens ++ [token]) where
  definition first found := by
    rw [same] at found
    obtain ⟨name, before, inside, rfl, row, _⟩ := tracks.definition first found
    refine ⟨name, before, inside ++ [token], by simp, ?_,
      fun last found => ⟨token, ?_, ended last found⟩⟩
    · simpa using next _ row
    · rw [← List.cons_append, List.getLast?_concat]
      rfl
  oversized number same := absurd same (fits number)

theorem tracks_afterNumber {next : Int → Position} (kind : token.kind = .number)
    (fitting : ∀ value, Number [token.toLexeme] value → (next value).Tracks (tokens ++ [token])) :
    (afterNumber token next).Tracks (tokens ++ [token]) := by
  simp only [afterNumber]
  split
  · next fits =>
      rw [ofDecimal_eq_decimalValue] at fits ⊢
      exact fitting _ (.intro kind fits)
  · next beyond =>
      constructor
      · rintro first ⟨⟩
      · rintro number ⟨⟩
        exact ⟨by simp, kind, Nat.lt_of_not_le beyond⟩

theorem Step.tracks (step : Step token position behind) (tracks : position.Tracks tokens) :
    behind.Tracks (tokens ++ [token]) := by
  cases step with
  | block | define | bracket | entryName | entryMark | semicolon | close | joined | vector =>
      exact .outside rfl nofun
  | entryValue kind | size kind =>
      exact tracks_afterNumber kind fun value _ => .outside rfl nofun
  | firstName kind =>
      refine ⟨fun first found => ?_, nofun⟩
      cases found
      exact ⟨kind, tokens, [], rfl, .one (.intro kind), nofun⟩
  | firstComma kind | nextComma kind | firstEquals kind | nextEquals kind | valueComma kind =>
      exact tracks.onward rfl nofun (fun lexemes row => .intro row kind) nofun
  | nextName kind =>
      refine tracks.onward rfl nofun (fun lexemes row => ?_) nofun
      obtain ⟨names, comma, rfl, named, parted⟩ := row
      rw [List.append_assoc]
      exact .more named parted (.intro kind)
  | firstValue kind =>
      refine tracks_afterNumber kind fun value number =>
        tracks.onward rfl nofun (fun lexemes row => ⟨lexemes, _, rfl, row, .one number⟩) ?_
      rintro last ⟨⟩
      exact ⟨kind, rfl⟩
  | value kind =>
      refine tracks_afterNumber kind fun value number =>
        tracks.onward rfl nofun (fun lexemes row => ?_) ?_
      · obtain ⟨_, comma, rfl, ⟨left, right, rfl, named, numbered⟩, parted⟩ := row
        exact ⟨left, right ++ comma :: [token.toLexeme], by simp, named,
          .more numbered parted number⟩
      · rintro last ⟨⟩
        exact ⟨kind, rfl⟩

end Position

namespace Parser

variable {parser behind : Parser} {token : Token} {tokens front : List Token} {kind : Kind}
  {error : SyntaxError}

theorem settle_tracks {settled : List Event × Parser} (tracks : parser.position.Tracks tokens)
    (settles : parser.settle kind = .ok settled) : settled.2.position.Tracks tokens := by
  rcases settle_cases settles with same | same | ⟨definition, same⟩ <;> rw [same]
  · exact tracks
  all_goals exact .outside rfl nofun

theorem accept_tracks (tracks : parser.position.Tracks tokens)
    (accepts : parser.accept token = .ok behind) :
    behind.position.Tracks (tokens ++ [token]) := by
  obtain ⟨settled, position, settles, found, rfl⟩ := exists_of_accept accepts
  exact (Position.step_of_after found).tracks (settle_tracks tracks settles)

theorem acceptAll_tracks (tracks : parser.position.Tracks tokens)
    (accepts : front.foldlM accept parser = .ok behind) :
    behind.position.Tracks (tokens ++ front) := by
  induction front generalizing parser tokens with
  | nil =>
      cases accepts
      simpa using tracks
  | cons token rest ih =>
      obtain ⟨next, accepted, accepts⟩ := foldlM_cons_eq_ok_iff.mp accepts
      simpa using ih (accept_tracks tracks accepted) accepts

/-- What is complete is wrong if a number does not fit, or names and values do not agree. -/
theorem settle_error_cases (failed : parser.settle kind = .error error) :
    (∃ number, parser.position = .oversized number ∧
      error = ⟨.numberTooLarge number.text, number.span⟩) ∨
    ∃ binding values last, parser.position = .valueEnd binding values last ∧
      binding.names.length ≠ values.length ∧
      error = ⟨.arityMismatch binding.names.length values.length, binding.first.span.join last⟩ := by
  unfold settle at failed
  split at failed
  · contradiction
  · split at failed <;> contradiction
  · next binding values last here =>
      split at failed
      · contradiction
      · split at failed
        · contradiction
        · next differ =>
            cases failed
            exact .inr ⟨binding, values, last, here, differ, rfl⟩
  · contradiction
  · next number here =>
      cases failed
      exact .inl ⟨number, here, rfl⟩
  · contradiction

end Parser

end Bcpl
