import Bcpl.Proofs.Grammar.FirstError
import Bcpl.Proofs.Grammar.Outline
import Bcpl.Proofs.Grammar.Step
import Bcpl.Proofs.Lexing.Kinds

/-!
A parser refuses a token as soon as no program of the outline goes on with it, and what it then
names as expected would have been right (`parse_error_at_first_misfit`).
-/

namespace Bcpl

open Outline

namespace Position

/-- What may follow a position in the outline of a program. Behind a number that does not fit
nothing is read any more. -/
def following : Position → Language Kind
  | .item | .blockEnd _ => program
  | .opening _ => one (.symbol .sectBra) * (declaration * afterEntry)
  | .entryName _ _ => declaration * afterEntry
  | .entryMark _ _ _ => (one (.symbol .eq) + one (.symbol .colon)) * (one .number * afterEntry)
  | .entryValue _ _ _ => one .number * afterEntry
  | .entryEnd _ _ => afterEntry
  | .firstName _ | .nextName _ => one .name * afterName
  | .firstMark _ | .nextMark _ => afterName
  | .body _ => afterEquals
  | .vectorSize _ => one .number * afterDefinition
  | .value _ _ => one .number * afterValue
  | .valueEnd _ _ _ => afterValue
  | .defEnd _ => afterDefinition
  | .oversized _ => 0

/-- The positions at which a token of the kind `next` shows nothing to be complete. -/
def Settled (next : Kind) : Position → Prop
  | .blockEnd _ | .oversized _ => False
  | .valueEnd _ _ _ => next = .symbol .comma
  | .defEnd _ => next = .keyword .and
  | _ => True

variable {position behind : Position} {token : Token} {word : List Kind}

theorem number_mem_following_iff {next : Int → Position} {rest : Language Kind}
    (kind : token.kind = .number) (fits : ∀ number, afterNumber token next ≠ .oversized number)
    (same : ∀ value, (next value).following = rest) :
    token.kind :: word ∈ one .number * rest ↔ word ∈ (afterNumber token next).following := by
  rcases afterNumber_cases token next with ⟨value, fitting⟩ | oversized
  · rw [fitting, same, cons_mem_one_mul, and_iff_right kind]
  · exact absurd oversized (fits token)

/-- What may follow a position with a token in front is what may follow the position behind it. -/
theorem Step.cons_mem_following_iff (step : Step token position behind)
    (fits : ∀ number, behind ≠ .oversized number) :
    token.kind :: word ∈ position.following ↔ word ∈ behind.following := by
  cases step with
  | block scope kind =>
      cases scope <;> simp [following, cons_mem_program, kind, Scope.kind]
  | define kind => simp [following, cons_mem_program, kind]
  | entryName kind => simp [following, declaration_mul_afterEntry, kind]
  | entryMark kind => simp [following, add_mul, Language.mem_add, kind, ← or_and_right]
  | semicolon kind | close kind => simp [following, mem_afterEntry, kind]
  | firstComma kind | firstEquals kind | nextComma kind | nextEquals kind =>
      simp [following, mem_afterName, kind]
  | vector kind => simp [following, afterEquals, Language.mem_add, kind]
  | firstValue kind =>
      have value := @number_mem_following_iff _ word _ afterValue kind fits fun value => rfl
      rw [following, afterEquals, Language.mem_add, value]
      simp [kind]
  | entryValue kind | size kind | value kind =>
      exact number_mem_following_iff kind fits fun value => rfl
  | valueComma kind => simp [following, mem_afterValue, mem_afterDefinition, cons_mem_program, kind]
  | joined kind => simp [following, mem_afterDefinition, cons_mem_program, kind]
  | bracket kind | firstName kind | nextName kind => simp [following, kind]

theorem after?_ne_none (settled : position.Settled token.kind)
    (member : token.kind :: word ∈ position.following) : position.after? token ≠ none := by
  cases position with
  | item =>
      simp only [following, cons_mem_program] at member
      rcases member with ⟨kind | kind, _⟩ | ⟨kind, _⟩ <;> simp [after?, kind]
  | opening scope | firstName left | nextName binding | vectorSize binding | value binding values
  | entryValue scope entries name =>
      obtain ⟨kind, _⟩ := cons_mem_one_mul.mp member
      simp [after?, kind]
  | entryName scope entries =>
      rw [following, declaration_mul_afterEntry] at member
      obtain ⟨kind, _⟩ := cons_mem_one_mul.mp member
      simp [after?, kind]
  | entryMark scope entries name =>
      simp only [following, add_mul, Language.mem_add, cons_mem_one_mul] at member
      rcases member with ⟨kind, _⟩ | ⟨kind, _⟩ <;> simp [after?, kind]
  | entryEnd scope entries =>
      simp only [following, mem_afterEntry, cons_mem_one_mul] at member
      rcases member with ⟨kind, _⟩ | ⟨kind, _⟩ <;> simp [after?, kind]
  | firstMark binding | nextMark binding =>
      simp only [following, mem_afterName, cons_mem_one_mul] at member
      rcases member with ⟨kind, _⟩ | ⟨kind, _⟩ <;> simp [after?, kind]
  | body binding =>
      simp only [following, afterEquals, Language.mem_add, cons_mem_one_mul] at member
      rcases member with ⟨kind, _⟩ | ⟨kind, _⟩ <;> simp [after?, kind]
  | valueEnd binding values last | defEnd definition =>
      have kind : token.kind = _ := settled
      simp [after?, kind]
  | blockEnd decl | oversized number => contradiction

theorem after?_of_eof (ended : token.kind = .eof) : position.after? token = none := by
  cases position <;> simp [after?, ended]

theorem nil_notMem_following (settled : position.Settled .eof) (unfinished : position ≠ .item) :
    [] ∉ position.following := by
  cases position with
  | item => contradiction
  | blockEnd decl | oversized number => contradiction
  | valueEnd binding values last | defEnd definition => simp [Settled] at settled
  | entryName scope entries =>
      rw [following, declaration_mul_afterEntry]
      exact nil_notMem_one_mul
  | _ => simp [following, add_mul, Language.mem_add, afterEquals, mem_afterName, mem_afterEntry]

/-- Nothing that starts with a refused token may follow, nor the end of the program if that is
refused. -/
theorem head_ne_of_refuses (settled : position.Settled token.kind)
    (refuses : position.Refuses token) (member : word ∈ position.following) :
    word.head?.getD .eof ≠ token.kind := by
  have refused : position.after? token = none := by
    by_cases ended : token.kind = .eof
    · exact after?_of_eof ended
    · simpa only [Refuses, if_neg ended] using refuses
  cases word with
  | nil =>
      intro ended
      have kind : token.kind = .eof := ended.symm
      rw [Refuses, if_pos kind] at refuses
      rw [kind] at settled
      exact nil_notMem_following settled refuses member
  | cons first rest =>
      intro same
      obtain rfl : first = token.kind := same
      exact after?_ne_none settled member refused

/-- Each kind that is named as expected may follow. -/
theorem exists_cons_mem_following (settled : position.Settled token.kind)
    (refuses : position.Refuses token) {kind : Kind} (named : kind ∈ position.expectation.kinds) :
    ∃ word, kind :: word ∈ position.following := by
  cases position with
  | item =>
      simp only [expectation, Expectation.kinds, List.mem_cons, List.not_mem_nil, or_false] at named
      rcases named with rfl | rfl | rfl
      · refine ⟨.symbol .sectBra :: [.name, .symbol .eq, .number, .symbol .sectKet], ?_⟩
        simp [following, cons_mem_program, entry_mem_declaration_mul_afterEntry]
      · refine ⟨.symbol .sectBra :: [.name, .symbol .eq, .number, .symbol .sectKet], ?_⟩
        simp [following, cons_mem_program, entry_mem_declaration_mul_afterEntry]
      · refine ⟨.name :: [.symbol .eq, .number], ?_⟩
        simp [following, cons_mem_program, equals_mem_afterName]
  | opening scope =>
      obtain rfl := List.mem_singleton.mp named
      exact ⟨_, cons_mem_one_mul.mpr ⟨rfl, entry_mem_declaration_mul_afterEntry⟩⟩
  | entryName scope entries =>
      obtain rfl := List.mem_singleton.mp named
      exact ⟨_, entry_mem_declaration_mul_afterEntry⟩
  | entryMark scope entries name =>
      refine ⟨.number :: [.symbol .sectKet], ?_⟩
      simp only [expectation, Expectation.kinds, List.mem_cons, List.not_mem_nil, or_false] at named
      simpa [following, add_mul, Language.mem_add, closing_mem_afterEntry] using named
  | entryValue scope entries name =>
      obtain rfl := List.mem_singleton.mp named
      exact ⟨_, cons_mem_one_mul.mpr ⟨rfl, closing_mem_afterEntry⟩⟩
  | entryEnd scope entries =>
      obtain rfl := List.mem_singleton.mp named
      exact ⟨_, closing_mem_afterEntry⟩
  | firstName left | nextName binding =>
      obtain rfl := List.mem_singleton.mp named
      exact ⟨_, cons_mem_one_mul.mpr ⟨rfl, equals_mem_afterName⟩⟩
  | firstMark binding =>
      simp only [expectation, Expectation.kinds, List.mem_cons, List.not_mem_nil, or_false] at named
      rcases named with rfl | rfl
      · refine ⟨.name :: [.symbol .eq, .number], ?_⟩
        simp [following, mem_afterName, number_mem_afterEquals]
      · exact ⟨_, equals_mem_afterName⟩
  | nextMark binding =>
      obtain rfl := List.mem_singleton.mp named
      exact ⟨_, equals_mem_afterName⟩
  | body binding =>
      obtain rfl := List.mem_singleton.mp named
      exact ⟨_, number_mem_afterEquals⟩
  | vectorSize binding =>
      obtain rfl := List.mem_singleton.mp named
      exact ⟨_, cons_mem_one_mul.mpr ⟨rfl, nil_mem_afterDefinition⟩⟩
  | value binding values =>
      obtain rfl := List.mem_singleton.mp named
      exact ⟨_, cons_mem_one_mul.mpr ⟨rfl, nil_mem_afterValue⟩⟩
  | valueEnd binding values last | defEnd definition =>
      -- There the token would have been read.
      have kind : token.kind = _ := settled
      simp [Refuses, after?, kind] at refuses
  | blockEnd decl | oversized number => contradiction

end Position

namespace Parser

variable {parser behind : Parser} {token : Token} {word : List Kind}

/-- To settle what the next token shows to be complete changes nothing about what may follow. -/
theorem settle_following {next : Kind} {settled : List Event × Parser}
    (settles : parser.settle next = .ok settled) :
    settled.2.position.Settled next ∧
      (∀ word ∈ settled.2.position.following, word ∈ parser.position.following) ∧
      (∀ word ∈ parser.position.following, word.head?.getD .eof = next →
        word ∈ settled.2.position.following) := by
  have complete (program : Program) (definition : Def) :
      (settleDef program definition next).2.position.Settled next ∧
        (∀ word ∈ (settleDef program definition next).2.position.following,
          word ∈ afterDefinition) ∧
        (∀ word ∈ afterDefinition, word.head?.getD .eof = next →
          word ∈ (settleDef program definition next).2.position.following) := by
    unfold settleDef
    split
    · next joined => exact ⟨joined, fun _ member => member, fun _ member _ => member⟩
    · next unjoined =>
        refine ⟨trivial, fun word member => mem_afterDefinition.mpr (.inl member), ?_⟩
        intro word member starts
        rcases mem_afterDefinition.mp member with member | joined
        · exact member
        · exact absurd (starts.symm.trans (head_of_mem_one_mul joined)) unjoined
  obtain ⟨program, position⟩ := parser
  unfold settle at settles
  cases position with
  | blockEnd decl =>
      cases settles
      exact ⟨trivial, fun _ member => member, fun _ member _ => member⟩
  | vectorSize binding =>
      simp only at settles
      split at settles <;> cases settles <;>
        exact ⟨trivial, fun _ member => member, fun _ member _ => member⟩
  | valueEnd binding values last =>
      simp only at settles
      split at settles
      · next parted =>
          cases settles
          exact ⟨parted, fun _ member => member, fun _ member _ => member⟩
      · next unparted =>
          split at settles
          · cases settles
            obtain ⟨settled, kept, led⟩ := complete program
              (binding.join (.simple binding.names (values.map .const)))
            refine ⟨settled, fun word member => mem_afterValue.mpr (.inl (kept word member)), ?_⟩
            intro word member starts
            rcases mem_afterValue.mp member with member | comma
            · exact led word member starts
            · exact absurd (starts.symm.trans (head_of_mem_one_mul comma)) unparted
          · contradiction
  | defEnd definition =>
      cases settles
      exact complete _ _
  | oversized number => contradiction
  | _ =>
      cases settles
      exact ⟨trivial, fun _ member => member, fun _ member _ => member⟩

theorem not_oversized_of_accept (accepts : parser.accept token = .ok behind) (number : Token) :
    parser.position ≠ .oversized number := by
  intro oversized
  obtain ⟨settled, settles, _⟩ := bind_eq_ok_iff.mp accepts
  simp [settle, oversized] at settles

theorem accept_following (accepts : parser.accept token = .ok behind)
    (fits : ∀ number, behind.position ≠ .oversized number) :
    token.kind :: word ∈ parser.position.following ↔ word ∈ behind.position.following := by
  obtain ⟨⟨events, settled⟩, position, settles, found, rfl⟩ := exists_of_accept accepts
  obtain ⟨_, kept, led⟩ := settle_following settles
  have same : token.kind :: word ∈ parser.position.following ↔
      token.kind :: word ∈ settled.position.following :=
    ⟨fun member => led _ member rfl, fun member => kept _ member⟩
  rw [same, (Position.step_of_after found).cons_mem_following_iff fits]

theorem acceptAll_following {tokens : List Token}
    (accepts : tokens.foldlM accept parser = .ok behind)
    (fits : ∀ number, behind.position ≠ .oversized number) :
    tokens.map (·.kind) ++ word ∈ parser.position.following ↔
      word ∈ behind.position.following := by
  -- From the end, for a number that is read further on has fitted.
  induction tokens using List.reverseRecOn generalizing behind word with
  | nil =>
      cases accepts
      rfl
  | append_singleton tokens token ih =>
      obtain ⟨middle, earlier, accepted⟩ := foldlM_concat_eq_ok_iff.mp accepts
      rw [List.map_append, List.append_assoc, ih earlier (not_oversized_of_accept accepted)]
      exact accept_following accepted fits

end Parser

/-- A text that says what was expected names a kind of tokens. -/
def Kind.NamedIn (kind : Kind) (expected : Text) : Prop :=
  kind.description <:+: expected ∨
    expected = "a declaration or definition".toList ∧
      kind ∈ [.keyword .global, .keyword .manifest, .keyword .let_]

theorem Position.mem_kinds_of_namedIn {position : Position} {kind : Kind}
    (named : kind.NamedIn position.expectation.description) :
    kind ∈ position.expectation.kinds := by
  have described : ∀ expectation ∈ [Expectation.item, .equalsOrColon, .commaOrEquals, .token .name,
      .token .number, .token (.symbol .sectBra), .token (.symbol .sectKet), .token (.symbol .eq)],
      ∀ kind ∈ Kind.all,
      kind.description <:+: expectation.description ∨
        expectation.description = "a declaration or definition".toList ∧
          kind ∈ [.keyword .global, .keyword .manifest, .keyword .let_] →
      kind ∈ expectation.kinds := by
    decide +kernel
  exact described position.expectation (by cases position <;> simp [expectation]) kind kind.mem_all
    named

/-- An error at a token that could not be read or stands where it cannot. The other errors are about
definitions and numbers that are complete. -/
def Cause.IsRefusal : Cause → Prop
  | .lexical _ | .unterminatedString | .expected _ _ => True
  | .arityMismatch _ _ | .numberTooLarge _ => False

theorem Parser.not_isRefusal_of_settle {parser : Parser} {next : Kind} {error : SyntaxError}
    (failed : parser.settle next = .error error) : ¬ error.cause.IsRefusal := by
  unfold settle at failed
  split at failed
  · contradiction
  · split at failed <;> contradiction
  · split at failed
    · contradiction
    · split at failed
      · contradiction
      · cases failed
        exact id
  · contradiction
  · cases failed
    exact id
  · contradiction

theorem Expectation.exists_mem_kinds (expectation : Expectation) :
    ∃ kind, kind ∈ expectation.kinds := by
  cases expectation with
  | item => exact ⟨.keyword .global, by simp [kinds]⟩
  | equalsOrColon => exact ⟨.symbol .eq, by simp [kinds]⟩
  | commaOrEquals => exact ⟨.symbol .comma, by simp [kinds]⟩
  | token kind => exact ⟨kind, by simp [kinds]⟩

theorem Token.expectation_of_refusal {token : Token} {expectation named : Expectation}
    {found : Lexeme} (cause : (token.refusal expectation).cause = .expected named found) :
    named = expectation := by
  simp only [Token.refusal] at cause
  split at cause
  · split at cause <;> contradiction
  · exact (Cause.expected.inj cause).1.symm

theorem exists_of_prefix_concat {kinds sentence : List Kind} {kind : Kind}
    (leads : kinds ++ [kind] <+: sentence ++ [.eof]) :
    ∃ word, sentence = kinds ++ word ∧ word.head?.getD .eof = kind := by
  obtain ⟨rest, same⟩ := leads
  have shorter : kinds.length ≤ sentence.length := by
    have counted := congrArg List.length same
    simp only [List.length_append, List.length_singleton] at counted
    omega
  have front : kinds <+: sentence ++ [.eof] := ⟨kind :: rest, by rw [← same]; simp⟩
  obtain ⟨word, rfl⟩ :=
    List.prefix_of_prefix_length_le front (List.prefix_append sentence [.eof]) shorter
  refine ⟨word, rfl, ?_⟩
  rw [List.append_assoc, List.append_assoc, List.append_cancel_left_eq] at same
  cases word with
  | nil => exact (List.cons.inj same).1.symm
  | cons first word => exact (List.cons.inj same).1.symm

/-- An error stands at the first token that no program goes on with. What is in front of that token
is the beginning of a program in outline, and stays one with each kind of token that is named as
expected in its place. -/
structure FirstMisfit (tokens : List Token) (index : Nat) (error : SyntaxError) : Prop where
  located : tokens[index]?.map Token.span = some error.span
  viable : Viable ((tokens.take index).map (·.kind))
  misfit : ∀ sentence ∈ program,
    ¬ (tokens.take (index + 1)).map (·.kind) <+: sentence ++ [.eof]
  named : ∀ expectation found, error.cause = .expected expectation found →
    ∀ kind : Kind, kind.NamedIn expectation.description →
      Viable ((tokens.take index).map (·.kind) ++ [kind])

/-- A syntax error, except one about a definition or a number that is complete, stands at the first
token of the text that no program goes on with. -/
theorem parse_error_at_first_misfit {text : Text} {error : SyntaxError}
    (failed : parse text = .error error) (refusal : error.cause.IsRefusal) :
    ∃ index, FirstMisfit (plainTokens text) index error := by
  obtain ⟨front, token, back, behind, split, accepted, rejects⟩ := exists_rejected_of_parse failed
  rcases rejects.cases with complete | ⟨events, settled, settles, refuses, rfl⟩
  · exact absurd refusal (Parser.not_isRefusal_of_settle complete)
  obtain ⟨left, kept, led⟩ := Parser.settle_following settles
  have fits : ∀ number, behind.position ≠ .oversized number := by
    intro number oversized
    simp [Parser.settle, oversized] at settles
  have run (word : List Kind) :
      front.map (·.kind) ++ word ∈ program ↔ word ∈ behind.position.following :=
    Parser.acceptAll_following accepted fits
  have goesOn {kind : Kind} (named : kind ∈ settled.position.expectation.kinds) :
      Viable (front.map (·.kind) ++ [kind]) := by
    obtain ⟨word, member⟩ := Position.exists_cons_mem_following left refuses named
    refine ⟨word, ?_⟩
    rw [List.append_assoc, List.singleton_append, run]
    exact kept _ member
  have before : (plainTokens text).take front.length = front := by
    rw [split, List.take_left]
  have upTo : (plainTokens text).take (front.length + 1) = front ++ [token] := by
    rw [split, List.take_length_add_append]
    rfl
  refine ⟨front.length, by simp [split, Token.refusal], ?_, ?_, ?_⟩
  · obtain ⟨kind, named⟩ := settled.position.expectation.exists_mem_kinds
    obtain ⟨rest, derived⟩ := goesOn named
    rw [before]
    exact ⟨kind :: rest, by simpa using derived⟩
  · intro sentence derived leads
    rw [upTo, List.map_append] at leads
    obtain ⟨word, rfl, starts⟩ := exists_of_prefix_concat leads
    have member := led word ((run word).mp derived) starts
    exact Position.head_ne_of_refuses left refuses member starts
  · intro expectation found cause kind named
    obtain rfl := Token.expectation_of_refusal cause
    rw [before]
    exact goesOn (Position.mem_kinds_of_namedIn named)

/-- A semicolon is inserted in front of the second name, and the bracket behind that name is the
first misfit. -/
theorem bracket_at_first_misfit :
    parse "global $( A: 1\n B $)".toList =
        .error ⟨.expected .equalsOrColon ⟨.symbol .sectKet, "$)".toList⟩, ⟨18, 20⟩⟩ ∧
      ∃ index, FirstMisfit (plainTokens "global $( A: 1\n B $)".toList) index
        ⟨.expected .equalsOrColon ⟨.symbol .sectKet, "$)".toList⟩, ⟨18, 20⟩⟩ := by
  have failed : parse "global $( A: 1\n B $)".toList =
      .error ⟨.expected .equalsOrColon ⟨.symbol .sectKet, "$)".toList⟩, ⟨18, 20⟩⟩ := by
    decide +kernel
  exact ⟨failed, parse_error_at_first_misfit failed trivial⟩

end Bcpl
