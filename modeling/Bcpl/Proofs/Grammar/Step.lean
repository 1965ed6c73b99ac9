import Bcpl.Proofs.Grammar.Soundness

/-!
All steps from one position to the next. What holds of every step is shown by the cases of `Step`.
-/

namespace Bcpl.Position

/-- A token takes a position to the next one. -/
inductive Step (token : Token) : Position → Position → Prop where
  | block (scope : Scope) (kind : token.kind = scope.kind) : Step token .item (.opening scope)
  | define (kind : token.kind = .keyword .let_) : Step token .item (.firstName none)
  | bracket {scope : Scope} (kind : token.kind = .symbol .sectBra) :
      Step token (.opening scope) (.entryName scope [])
  | entryName {scope : Scope} {entries : List Entry} (kind : token.kind = .name) :
      Step token (.entryName scope entries) (.entryMark scope entries token.text)
  | entryMark {scope : Scope} {entries : List Entry} {name : Text}
      (kind : token.kind = .symbol .eq ∨ token.kind = .symbol .colon) :
      Step token (.entryMark scope entries name) (.entryValue scope entries name)
  | entryValue {scope : Scope} {entries : List Entry} {name : Text} (kind : token.kind = .number) :
      Step token (.entryValue scope entries name)
        (afterNumber token fun value => .entryEnd scope (entries ++ [⟨name, value⟩]))
  | semicolon {scope : Scope} {entries : List Entry} (kind : token.kind = .symbol .semicolon) :
      Step token (.entryEnd scope entries) (.entryName scope entries)
  | close {scope : Scope} {entries : List Entry} (kind : token.kind = .symbol .sectKet) :
      Step token (.entryEnd scope entries) (.blockEnd (scope.decl entries))
  | firstName {left : Option Def} (kind : token.kind = .name) :
      Step token (.firstName left) (.firstMark ⟨left, token, []⟩)
  | firstComma {binding : Binding} (kind : token.kind = .symbol .comma) :
      Step token (.firstMark binding) (.nextName binding)
  | firstEquals {binding : Binding} (kind : token.kind = .symbol .eq) :
      Step token (.firstMark binding) (.body binding)
  | nextName {binding : Binding} (kind : token.kind = .name) :
      Step token (.nextName binding) (.nextMark (binding.addName token.text))
  | nextComma {binding : Binding} (kind : token.kind = .symbol .comma) :
      Step token (.nextMark binding) (.nextName binding)
  | nextEquals {binding : Binding} (kind : token.kind = .symbol .eq) :
      Step token (.nextMark binding) (.body binding)
  | vector {binding : Binding} (kind : token.kind = .keyword .vec) :
      Step token (.body binding) (.vectorSize binding)
  | firstValue {binding : Binding} (kind : token.kind = .number) :
      Step token (.body binding)
        (afterNumber token fun value => .valueEnd binding [value] token.span)
  | size {binding : Binding} (kind : token.kind = .number) :
      Step token (.vectorSize binding) (afterNumber token fun size =>
        .defEnd (binding.join (.vec binding.first.text (.const size))))
  | value {binding : Binding} {values : List Int} (kind : token.kind = .number) :
      Step token (.value binding values)
        (afterNumber token fun value => .valueEnd binding (values ++ [value]) token.span)
  | valueComma {binding : Binding} {values : List Int} {last : Span}
      (kind : token.kind = .symbol .comma) :
      Step token (.valueEnd binding values last) (.value binding values)
  | joined {definition : Def} (kind : token.kind = .keyword .and) :
      Step token (.defEnd definition) (.firstName (some definition))

variable {position behind : Position} {token : Token}

theorem step_of_after (found : position.after? token = some behind) :
    Step token position behind := by
  unfold after? at found
  cases position with
  | item =>
      simp only at found
      split at found <;> cases found
      · next kind => exact .block .global kind
      · next kind => exact .block .manifest kind
      · next kind => exact .define kind
  | opening scope =>
      obtain ⟨kind, rfl⟩ := ite_eq_some_iff.mp found
      exact .bracket kind
  | entryName scope entries =>
      obtain ⟨kind, rfl⟩ := ite_eq_some_iff.mp found
      exact .entryName kind
  | entryMark scope entries name =>
      obtain ⟨kind, rfl⟩ := ite_eq_some_iff.mp found
      exact .entryMark kind
  | entryValue scope entries name =>
      obtain ⟨kind, rfl⟩ := ite_eq_some_iff.mp found
      exact .entryValue kind
  | entryEnd scope entries =>
      simp only at found
      split at found
      · next kind =>
          cases found
          exact .semicolon kind
      · obtain ⟨kind, rfl⟩ := ite_eq_some_iff.mp found
        exact .close kind
  | firstName left =>
      obtain ⟨kind, rfl⟩ := ite_eq_some_iff.mp found
      exact .firstName kind
  | firstMark binding =>
      simp only at found
      split at found
      · next kind =>
          cases found
          exact .firstComma kind
      · obtain ⟨kind, rfl⟩ := ite_eq_some_iff.mp found
        exact .firstEquals kind
  | nextName binding =>
      obtain ⟨kind, rfl⟩ := ite_eq_some_iff.mp found
      exact .nextName kind
  | nextMark binding =>
      simp only at found
      split at found
      · next kind =>
          cases found
          exact .nextComma kind
      · obtain ⟨kind, rfl⟩ := ite_eq_some_iff.mp found
        exact .nextEquals kind
  | body binding =>
      simp only at found
      split at found
      · next kind =>
          cases found
          exact .vector kind
      · obtain ⟨kind, rfl⟩ := ite_eq_some_iff.mp found
        exact .firstValue kind
  | vectorSize binding =>
      obtain ⟨kind, rfl⟩ := ite_eq_some_iff.mp found
      exact .size kind
  | value binding values =>
      obtain ⟨kind, rfl⟩ := ite_eq_some_iff.mp found
      exact .value kind
  | valueEnd binding values last =>
      obtain ⟨kind, rfl⟩ := ite_eq_some_iff.mp found
      exact .valueComma kind
  | defEnd definition =>
      obtain ⟨kind, rfl⟩ := ite_eq_some_iff.mp found
      exact .joined kind
  | blockEnd decl => contradiction
  | oversized number => contradiction

/-- Behind a number stands what is meant to, or the number does not fit. -/
theorem afterNumber_cases (token : Token) (next : Int → Position) :
    (∃ value, afterNumber token next = next value) ∨
      afterNumber token next = .oversized token := by
  simp only [afterNumber]
  split
  · exact .inl ⟨_, rfl⟩
  · exact .inr rfl

end Bcpl.Position
