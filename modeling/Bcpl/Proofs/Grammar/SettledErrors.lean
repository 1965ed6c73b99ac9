import Bcpl.Proofs.Grammar.ErrorRegion
import Bcpl.Proofs.Grammar.ViablePrefix
import Bcpl.Proofs.Lexing.Appending

/-!
Errors that no further text can mend. An error whose region ends in front of the end of the text
stays the first one, whatever is written behind the text (`parse_append_of_error`). Names and values
that do not agree are left out: a comma behind the last value may go on with them.
-/

namespace Bcpl

/-- A number that does not fit is the token in front of the position that remembers it. -/
theorem Position.Step.eq_of_oversized {token number : Token} {position behind : Position}
    (step : Step token position behind) (oversized : behind = .oversized number) :
    token = number := by
  have same {next : Int → Position} (fits : ∀ value, next value ≠ .oversized number)
      (found : afterNumber token next = .oversized number) : token = number := by
    rcases afterNumber_cases token next with ⟨value, here⟩ | here
    · exact absurd (here.symm.trans found) (fits value)
    · exact Position.oversized.inj (here.symm.trans found)
  cases step with
  | entryValue | firstValue | size | value => exact same (fun _ => by simp) oversized
  | _ => contradiction

namespace Parser

variable {parser behind : Parser} {tokens : List Token} {number : Token}

/-- The number that stops a parser is the last of the tokens that it has accepted. -/
theorem exists_front_of_oversized (accepts : tokens.foldlM accept parser = .ok behind)
    (oversized : behind.position = .oversized number)
    (fits : parser.position ≠ .oversized number) : ∃ front, tokens = front ++ [number] := by
  rcases List.eq_nil_or_concat tokens with rfl | ⟨front, last, rfl⟩
  · cases accepts
    exact absurd oversized fits
  · rw [List.concat_eq_append] at accepts
    obtain ⟨middle, _, accepted⟩ := foldlM_concat_eq_ok_iff.mp accepts
    obtain ⟨settled, position, _, found, rfl⟩ := exists_of_accept accepted
    obtain rfl := (Position.step_of_after found).eq_of_oversized oversized
    exact ⟨front, List.concat_eq_append⟩

/-- Behind a number that does not fit every token is rejected. -/
theorem rejects_of_oversized (oversized : parser.position = .oversized number) (token : Token) :
    parser.Rejects token ⟨.numberTooLarge number.text, number.span⟩ := by
  unfold Rejects
  split <;> simp [finish, accept, settle, oversized, bind, Except.bind]

end Parser

/-- A token that ends in front of the end of a text stays as it is when the text goes on, and so do
all tokens in front of it. -/
theorem plainTokens_append {text : Text} {before after : List Token} {token : Token}
    (split : plainTokens text = before ++ token :: after) (visible : token.span.isEmpty = false)
    (inside : token.span.stop < text.size) (more : Text) :
    ∃ next others, plainTokens (text ++ more) = before ++ token :: next :: others := by
  obtain ⟨chunks, layout⟩ := Layout.exists_chunks text
  obtain ⟨others, longer, same⟩ := layout.rowTokens_append more
  obtain ⟨front, back, behind, here, there, some, touches⟩ := same false 0
  rw [← layout.plainTokens_eq_rowTokens, split] at here
  rw [← longer.plainTokens_eq_rowTokens] at there
  have early : token ∉ back := by
    intro late
    rcases touches token late with empty | stop
    · simp [empty] at visible
    · omega
  obtain ⟨next, rest, rfl⟩ := List.exists_cons_of_ne_nil some
  rcases List.append_eq_append_iff.mp here with ⟨shared, rfl, tail⟩ | ⟨shared, rfl, tail⟩
  · cases shared with
    | nil => exact absurd (by rw [← List.nil_append back, ← tail]; simp) early
    | cons first shared =>
        obtain ⟨rfl, rfl⟩ := List.cons.inj tail
        cases shared with
        | nil => exact ⟨next, rest, by rw [there, List.append_assoc]; rfl⟩
        | cons second shared =>
            exact ⟨second, shared ++ next :: rest, by rw [there]; simp⟩
  · exact absurd (by rw [tail]; simp) early

/-- An error that lies in front of the end of a text is the error of every text that goes on with
it, unless it counts names and values. -/
theorem parse_append_of_error {text : Text} {error : SyntaxError}
    (failed : parse text = .error error)
    (counted : ∀ names values, error.cause ≠ .arityMismatch names values)
    (visible : error.span.isEmpty = false) (inside : error.span.stop < text.size) (more : Text) :
    parse (text ++ more) = .error error := by
  obtain ⟨front, token, back, behind, split, accepted, rejects⟩ := exists_rejected_of_parse failed
  rcases rejects.cases with wrong | ⟨_, settled, _, _, rfl⟩
  · rcases Parser.settle_error_cases wrong with ⟨number, oversized, rfl⟩ | ⟨_, _, _, _, _, rfl⟩
    · obtain ⟨earlier, rfl⟩ := Parser.exists_front_of_oversized accepted oversized (by simp)
      rw [List.append_assoc] at split
      obtain ⟨next, others, longer⟩ := plainTokens_append split visible inside more
      rw [← List.singleton_append, ← List.append_assoc] at longer
      exact parse_eq_error_of_rejects longer accepted (Parser.rejects_of_oversized oversized next)
    · exact absurd rfl (counted _ _)
  · obtain ⟨next, others, longer⟩ := plainTokens_append split visible inside more
    exact parse_eq_error_of_rejects longer accepted rejects

/-- The number is the last token of the first text, and is no longer that of the second. -/
theorem parse_append_of_large_number :
    let text := "let A = 99999999999999999999 ".toList
    let error : SyntaxError := ⟨.numberTooLarge "99999999999999999999".toList, ⟨8, 28⟩⟩
    parse text = .error error ∧ parse (text ++ ", 2 and B".toList) = .error error := by
  intro text error
  have failed : parse text = .error error := by decide +kernel
  exact ⟨failed, parse_append_of_error failed (by simp [error]) (by decide) (by decide) _⟩

/-- Names and values may still come to agree. -/
example : let text := "let A, B = 1 ".toList
    parse text = .error ⟨.arityMismatch 2 1, ⟨4, 12⟩⟩ ∧
      parse (text ++ ", 2".toList) =
        .ok ⟨[], [.simple ["A".toList, "B".toList] [.const 1, .const 2]]⟩ := by
  decide +kernel

end Bcpl
