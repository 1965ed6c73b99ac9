import Bcpl.Parser.SyntaxError
import Bcpl.Program.Basic

/-!
Positions in the grammar. A parser stands at a position together with what it has read of the item
there, and a token either takes it to the next position (`after?`) or is refused.
-/

namespace Bcpl

inductive Scope where
  | global
  | manifest
deriving DecidableEq, Repr, Inhabited

def Scope.decl : Scope → List Entry → Decl
  | .global, entries => .global entries
  | .manifest, entries => .constant entries

structure Binding where
  /-- The definitions joined to this one by `and`. -/
  left : Option Def
  first : Token
  others : List Text
deriving DecidableEq, Repr, Inhabited

namespace Binding

def names (binding : Binding) : List Text := binding.first.text :: binding.others

def addName (binding : Binding) (name : Text) : Binding :=
  { binding with others := binding.others ++ [name] }

def join (binding : Binding) (definition : Def) : Def :=
  match binding.left with
  | some left => .both left definition
  | none => definition

end Binding

def maxNumber : Nat := Nat.pow 2 63 - 1

inductive Position where
  /-- Between two items. -/
  | item
  /-- Behind the word that starts a block. -/
  | opening (scope : Scope)
  | entryName (scope : Scope) (entries : List Entry)
  | entryMark (scope : Scope) (entries : List Entry) (name : Text)
  | entryValue (scope : Scope) (entries : List Entry) (name : Text)
  | entryEnd (scope : Scope) (entries : List Entry)
  /-- Behind the bracket that closes a block. -/
  | blockEnd (decl : Decl)
  /-- Behind `let` or `and`. -/
  | firstName (left : Option Def)
  | firstMark (binding : Binding)
  | nextName (binding : Binding)
  | nextMark (binding : Binding)
  /-- Behind the `=` of a definition. -/
  | body (binding : Binding)
  | vectorSize (binding : Binding)
  | value (binding : Binding) (values : List Int)
  /-- Behind a value, the region of which is kept. -/
  | valueEnd (binding : Binding) (values : List Int) (last : Span)
  /-- Behind a definition whose names and values agree. -/
  | defEnd (definition : Def)
  /-- Behind a number that does not fit. -/
  | oversized (number : Token)
deriving DecidableEq, Repr, Inhabited

namespace Position

def afterNumber (number : Token) (next : Int → Position) : Position :=
  let value := Text.ofDecimal number.text
  if value ≤ maxNumber then next value else .oversized number

def after? (position : Position) (token : Token) : Option Position :=
  match position with
  | .item =>
      match token.kind with
      | .keyword .global => some (.opening .global)
      | .keyword .manifest => some (.opening .manifest)
      | .keyword .let_ => some (.firstName none)
      | _ => none
  | .opening scope =>
      if token.kind = .symbol .sectBra then some (.entryName scope []) else none
  | .entryName scope entries =>
      if token.kind = .name then some (.entryMark scope entries token.text) else none
  | .entryMark scope entries name =>
      if token.kind = .symbol .eq ∨ token.kind = .symbol .colon then
        some (.entryValue scope entries name)
      else none
  | .entryValue scope entries name =>
      if token.kind = .number then
        some (afterNumber token fun value => .entryEnd scope (entries ++ [⟨name, value⟩]))
      else none
  | .entryEnd scope entries =>
      if token.kind = .symbol .semicolon then some (.entryName scope entries)
      else if token.kind = .symbol .sectKet then some (.blockEnd (scope.decl entries))
      else none
  | .firstName left =>
      if token.kind = .name then some (.firstMark ⟨left, token, []⟩) else none
  | .firstMark binding | .nextMark binding =>
      if token.kind = .symbol .comma then some (.nextName binding)
      else if token.kind = .symbol .eq then some (.body binding)
      else none
  | .nextName binding =>
      if token.kind = .name then some (.nextMark (binding.addName token.text)) else none
  | .body binding =>
      if token.kind = .keyword .vec then some (.vectorSize binding)
      else if token.kind = .number then
        some (afterNumber token fun value => .valueEnd binding [value] token.span)
      else none
  | .vectorSize binding =>
      if token.kind = .number then
        some (afterNumber token fun size =>
          .defEnd (binding.join (.vec binding.first.text (.const size))))
      else none
  | .value binding values =>
      if token.kind = .number then
        some (afterNumber token fun value => .valueEnd binding (values ++ [value]) token.span)
      else none
  | .valueEnd binding values _ =>
      if token.kind = .symbol .comma then some (.value binding values) else none
  | .defEnd definition =>
      if token.kind = .keyword .and then some (.firstName (some definition)) else none
  | .blockEnd _ | .oversized _ => none

/-- What is named as expected when a token is refused. -/
def expectation : Position → Expectation
  | .opening _ => .token (.symbol .sectBra)
  | .entryName _ _ | .firstName _ | .nextName _ => .token .name
  | .entryMark _ _ _ => .equalsOrColon
  | .entryValue _ _ _ | .body _ | .vectorSize _ | .value _ _ => .token .number
  | .entryEnd _ _ => .token (.symbol .sectKet)
  | .firstMark _ => .commaOrEquals
  | .nextMark _ => .token (.symbol .eq)
  | .item | .blockEnd _ | .valueEnd _ _ _ | .defEnd _ | .oversized _ => .item

end Position

end Bcpl
