import Bcpl.Proofs.Grammar.Derivation
import Bcpl.Proofs.Grammar.TokenRun

/-!
What a parser has accepted is the beginning of a program. `Begun` says of every position which part
of an item lies in front of it, and `Reached` adds the complete items before that one. Accepting a
token keeps `Reached`, so a parser that finishes has read a program (`Reached.derives`).
-/

namespace Bcpl

theorem ite_eq_some_iff {α : Type} {test : Prop} [Decidable test] {value found : α} :
    (if test then some value else none) = some found ↔ test ∧ value = found := by
  rw [Option.ite_none_right_eq_some, Option.some.injEq]

def Scope.kind : Scope → Kind
  | .global => .keyword .global
  | .manifest => .keyword .manifest

namespace Grammar

/-- Lexemes that end in one of a given kind, with something given before it. -/
def Followed (before : List Lexeme → Prop) (kind : Kind) (lexemes : List Lexeme) : Prop :=
  ∃ earlier last, lexemes = earlier ++ [last] ∧ before earlier ∧ last.kind = kind

def Opened (scope : Scope) : List Lexeme → Prop :=
  Followed (Followed (· = []) scope.kind) (.symbol .sectBra)

def Entered (scope : Scope) (entries : List Entry) (lexemes : List Lexeme) : Prop :=
  ∃ opening inside, lexemes = opening ++ inside ∧ Opened scope opening ∧
    Separated Declaration (.symbol .semicolon) inside entries

def Entering (scope : Scope) (entries : List Entry) (lexemes : List Lexeme) : Prop :=
  (entries = [] ∧ Opened scope lexemes) ∨
    Followed (Entered scope entries) (.symbol .semicolon) lexemes

def Leading : Option Def → List Lexeme → Prop
  | none => Followed (· = []) (.keyword .let_)
  | some definition => Followed (Definition · definition) (.keyword .and)

def Named (binding : Binding) (lexemes : List Lexeme) : Prop :=
  ∃ leading names, lexemes = leading ++ names ∧ Leading binding.left leading ∧
    Separated Name (.symbol .comma) names binding.names

/-- A definition up to the last of some values. -/
def Valued (binding : Binding) (values : List Int) (lexemes : List Lexeme) : Prop :=
  ∃ left right, lexemes = left ++ right ∧ Followed (Named binding) (.symbol .eq) left ∧
    Separated Number (.symbol .comma) right values

/-- The part of an item that lies in front of a position. -/
def Begun : Position → List Lexeme → Prop
  | .item => (· = [])
  | .opening scope => Followed (· = []) scope.kind
  | .entryName scope entries => Entering scope entries
  | .entryMark scope entries name => fun lexemes =>
      ∃ before named, lexemes = before ++ named ∧ Entering scope entries before ∧ Name named name
  | .entryValue scope entries name => fun lexemes =>
      ∃ before named mark, lexemes = before ++ named ++ [mark] ∧ Entering scope entries before ∧
        Name named name ∧ (mark.kind = .symbol .eq ∨ mark.kind = .symbol .colon)
  | .entryEnd scope entries => Entered scope entries
  | .blockEnd decl => (Block · decl)
  | .firstName left => Leading left
  | .firstMark binding => Named binding
  | .nextMark binding => Named binding
  | .nextName binding => Followed (Named binding) (.symbol .comma)
  | .body binding => Followed (Named binding) (.symbol .eq)
  | .vectorSize binding => Followed (Followed (Named binding) (.symbol .eq)) (.keyword .vec)
  | .value binding values => Followed (Valued binding values) (.symbol .comma)
  | .valueEnd binding values _ => Valued binding values
  | .defEnd definition => (Definition · definition)
  | .oversized _ => fun _ => True

variable {scope : Scope} {entries : List Entry} {binding : Binding} {before lexemes : List Lexeme}

theorem Followed.intro {earlier : List Lexeme → Prop} {last : Lexeme} {kind : Kind}
    (begun : earlier before) (same : last.kind = kind) :
    Followed earlier kind (before ++ [last]) :=
  ⟨before, last, rfl, begun, same⟩

theorem Entering.entered {entry : Entry} (entering : Entering scope entries before)
    (declared : Declaration lexemes entry) :
    Entered scope (entries ++ [entry]) (before ++ lexemes) := by
  obtain ⟨rfl, opened⟩ | ⟨earlier, between, rfl, entered, parted⟩ := entering
  · exact ⟨before, lexemes, rfl, opened, .one declared⟩
  · obtain ⟨opening, inside, rfl, opened, row⟩ := entered
    exact ⟨opening, inside ++ between :: lexemes, by simp, opened, .more row parted declared⟩

theorem Entered.block {closing : Lexeme} (entered : Entered scope entries before)
    (closed : closing.kind = .symbol .sectKet) :
    Block (before ++ [closing]) (scope.decl entries) := by
  obtain ⟨_, inside, rfl, ⟨_, opening, rfl, ⟨_, word, rfl, rfl, reserved⟩, opened⟩, row⟩ := entered
  have body := Section.intro opened row closed
  cases scope with
  | global => simpa [Scope.decl] using Block.global reserved body
  | manifest => simpa [Scope.decl] using Block.manifest reserved body

theorem Leading.join {definition : Def} (leading : Leading binding.left before)
    (single : Single lexemes definition) :
    Definition (before ++ lexemes) (binding.join definition) := by
  unfold Binding.join
  cases left : binding.left with
  | none =>
      rw [left] at leading
      obtain ⟨_, word, rfl, rfl, reserved⟩ := leading
      exact .first reserved single
  | some earlier =>
      rw [left] at leading
      obtain ⟨_, word, rfl, defined, reserved⟩ := leading
      simpa using Definition.both defined reserved single

theorem Valued.definition {values : List Int} (valued : Valued binding values lexemes)
    (agree : binding.names.length = values.length) :
    Definition lexemes (binding.join (.simple binding.names (values.map .const))) := by
  obtain ⟨_, right, rfl, ⟨_, mark, rfl, ⟨leading, left, rfl, begun, named⟩, marked⟩, numbered⟩ :=
    valued
  simpa using begun.join (.simple named marked numbered agree)

theorem definition_of_vector {value : Int}
    (begun : Followed (Followed (Named binding) (.symbol .eq)) (.keyword .vec) before)
    (numbered : Number lexemes value) :
    Definition (before ++ lexemes) (binding.join (.vec binding.first.text (.const value))) := by
  obtain ⟨_, word, rfl, ⟨_, mark, rfl, named, marked⟩, reserved⟩ := begun
  obtain ⟨leading, left, rfl, begun, named⟩ := named
  simpa using begun.join (.vec named marked reserved numbered)

theorem begun_afterNumber {token : Token} {next : Int → Position} {current : List Lexeme}
    (kind : token.kind = .number)
    (fitting : ∀ value, Number [token.toLexeme] value → Begun (next value) current) :
    Begun (Position.afterNumber token next) current := by
  simp only [Position.afterNumber, ofDecimal_eq_decimalValue]
  split
  · next fits => exact fitting _ (.intro kind fits)
  · trivial

theorem Named.after {behind : Position} {token : Token} (named : Named binding before)
    (read : (if token.kind = .symbol .comma then some (.nextName binding)
      else if token.kind = .symbol .eq then some (.body binding) else none) = some behind) :
    Begun behind (before ++ [token.toLexeme]) := by
  split at read
  · next kind =>
      cases read
      exact .intro named kind
  · obtain ⟨kind, rfl⟩ := ite_eq_some_iff.mp read
    exact .intro named kind

/-- A token that can stand at a position leads on to a longer part of the item there. -/
theorem Begun.after {position behind : Position} {token : Token} (begun : Begun position before)
    (read : position.after? token = some behind) : Begun behind (before ++ [token.toLexeme]) := by
  unfold Position.after? at read
  cases position with
  | item =>
      obtain rfl : before = [] := begun
      simp only at read
      split at read
      · next kind =>
          cases read
          exact .intro rfl kind
      · next kind =>
          cases read
          exact .intro rfl kind
      · next kind =>
          cases read
          exact .intro rfl kind
      · contradiction
  | opening scope =>
      obtain ⟨kind, rfl⟩ := ite_eq_some_iff.mp read
      exact .inl ⟨rfl, .intro begun kind⟩
  | entryName scope entries =>
      obtain ⟨kind, rfl⟩ := ite_eq_some_iff.mp read
      exact ⟨before, _, rfl, begun, .intro kind⟩
  | entryMark scope entries name =>
      obtain ⟨kind, rfl⟩ := ite_eq_some_iff.mp read
      obtain ⟨earlier, named, rfl, entering, name⟩ := begun
      exact ⟨earlier, named, token.toLexeme, rfl, entering, name, kind⟩
  | entryValue scope entries name =>
      obtain ⟨kind, rfl⟩ := ite_eq_some_iff.mp read
      refine begun_afterNumber kind fun value number => ?_
      obtain ⟨earlier, _, mark, rfl, entering, ⟨named⟩, marked⟩ := begun
      have entered := entering.entered (.intro named marked number)
      simpa only [Begun, List.append_assoc, List.cons_append, List.nil_append] using entered
  | entryEnd scope entries =>
      simp only at read
      split at read
      · next kind =>
          cases read
          exact .inr (.intro begun kind)
      · obtain ⟨kind, rfl⟩ := ite_eq_some_iff.mp read
        exact Entered.block begun kind
  | blockEnd decl => contradiction
  | firstName left =>
      obtain ⟨kind, rfl⟩ := ite_eq_some_iff.mp read
      exact ⟨before, _, rfl, begun, .one (.intro kind)⟩
  | firstMark binding =>
      exact Named.after begun read
  | nextMark binding =>
      exact Named.after begun read
  | nextName binding =>
      obtain ⟨kind, rfl⟩ := ite_eq_some_iff.mp read
      obtain ⟨_, comma, rfl, ⟨leading, names, rfl, begun, named⟩, parted⟩ := begun
      refine ⟨leading, names ++ comma :: [token.toLexeme], by simp, begun, ?_⟩
      exact .more named parted (.intro kind)
  | body binding =>
      simp only at read
      split at read
      · next kind =>
          cases read
          exact .intro begun kind
      · obtain ⟨kind, rfl⟩ := ite_eq_some_iff.mp read
        exact begun_afterNumber kind fun value number => ⟨before, _, rfl, begun, .one number⟩
  | vectorSize binding =>
      obtain ⟨kind, rfl⟩ := ite_eq_some_iff.mp read
      exact begun_afterNumber kind fun value number => definition_of_vector begun number
  | value binding values =>
      obtain ⟨kind, rfl⟩ := ite_eq_some_iff.mp read
      obtain ⟨_, comma, rfl, ⟨left, right, rfl, begun, numbered⟩, parted⟩ := begun
      refine begun_afterNumber kind fun value number => ?_
      exact ⟨left, right ++ comma :: [token.toLexeme], by simp, begun, .more numbered parted number⟩
  | valueEnd binding values last =>
      obtain ⟨kind, rfl⟩ := ite_eq_some_iff.mp read
      exact .intro begun kind
  | defEnd definition =>
      obtain ⟨kind, rfl⟩ := ite_eq_some_iff.mp read
      exact .intro begun kind
  | oversized number => contradiction

end Grammar

open Grammar

/-- The lexemes that a parser has accepted: complete items, and a part of the next one. -/
def Parser.Reached (parser : Parser) (lexemes : List Lexeme) : Prop :=
  ∃ done current, lexemes = done ++ current ∧ Derives done parser.program ∧
    Begun parser.position current

namespace Parser.Reached

variable {parser : Parser} {lexemes : List Lexeme}

theorem start : Reached {} [] := ⟨[], [], rfl, .empty, rfl⟩

theorem settleDef {program : Program} {definition : Def} {done current : List Lexeme}
    (derived : Derives done program) (defined : Definition current definition) (next : Kind) :
    Reached (Parser.settleDef program definition next).2 (done ++ current) := by
  unfold Parser.settleDef
  split
  · exact ⟨done, current, rfl, derived, defined⟩
  · exact ⟨done ++ current, [], by simp, .definition derived defined, rfl⟩

theorem settle {next : Kind} {settled : List Event × Parser} (reached : Reached parser lexemes)
    (settles : parser.settle next = .ok settled) : Reached settled.2 lexemes := by
  obtain ⟨program, position⟩ := parser
  obtain ⟨done, current, rfl, derived, begun⟩ := reached
  unfold Parser.settle at settles
  cases position with
  | blockEnd decl =>
      cases settles
      exact ⟨done ++ current, [], by simp, .block derived begun, rfl⟩
  | vectorSize binding =>
      simp only at settles
      split at settles <;> cases settles <;> exact ⟨done, current, rfl, derived, begun⟩
  | valueEnd binding values last =>
      simp only at settles
      split at settles
      · cases settles
        exact ⟨done, current, rfl, derived, begun⟩
      · split at settles
        · next agree =>
            cases settles
            exact settleDef derived (Valued.definition begun agree) next
        · contradiction
  | defEnd definition =>
      cases settles
      exact settleDef derived begun next
  | oversized number => contradiction
  | _ =>
      cases settles
      exact ⟨done, current, rfl, derived, begun⟩

theorem read {token : Token} {behind : Parser} (reached : Reached parser lexemes)
    (reads : parser.read token = .ok behind) : Reached behind (lexemes ++ [token.toLexeme]) := by
  obtain ⟨done, current, rfl, derived, begun⟩ := reached
  obtain ⟨position, found, rfl⟩ := read_eq_ok_iff.mp reads
  exact ⟨done, current ++ [token.toLexeme], by simp, derived, begun.after found⟩

theorem accept {token : Token} {behind : Parser} (reached : Reached parser lexemes)
    (accepts : parser.accept token = .ok behind) :
    Reached behind (lexemes ++ [token.toLexeme]) := by
  obtain ⟨settled, settles, reads⟩ := bind_eq_ok_iff.mp accepts
  exact (reached.settle settles).read reads

theorem acceptAll {tokens : List Token} {behind : Parser} (reached : Reached parser lexemes)
    (accepts : tokens.foldlM Parser.accept parser = .ok behind) :
    Reached behind (lexemes ++ tokens.map Token.toLexeme) := by
  induction tokens generalizing parser lexemes with
  | nil =>
      cases accepts
      simpa using reached
  | cons token tokens ih =>
      obtain ⟨next, first, others⟩ := foldlM_cons_eq_ok_iff.mp accepts
      simpa using ih (reached.accept first) others

theorem derives {token : Token} {program : Program} (reached : Reached parser lexemes)
    (finishes : parser.finish token = .ok program) : Derives lexemes program := by
  obtain ⟨⟨events, settled⟩, settles, closes⟩ := bind_eq_ok_iff.mp finishes
  obtain ⟨done, current, rfl, derived, begun⟩ := reached.settle settles
  simp only [Parser.close] at closes
  split at closes
  · next item =>
      rw [item] at begun
      obtain rfl : current = [] := begun
      cases closes
      simpa using derived
  · contradiction

end Parser.Reached

end Bcpl
