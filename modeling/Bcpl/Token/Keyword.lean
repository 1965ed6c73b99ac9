import Bcpl.Text.Basic

/-!
Reserved words, each with its one spelling. A word that is none of them is a name.
-/

namespace Bcpl

inductive Keyword where
  | and | be | break_ | case | default | do_ | eqv | false_ | finish | for_ | get | global | goto
  | if_ | into | let_ | lv | manifest | neqv | or | rem | repeat_ | repeatUntil | repeatWhile
  | resultIs | return_ | rv | switchOn | test | to | true_ | unless_ | until_ | valof | vec
  | while_
deriving DecidableEq, Repr, Inhabited

namespace Keyword

def all : List Keyword :=
  [.and, .be, .break_, .case, .default, .do_, .eqv, .false_, .finish, .for_, .get, .global,
    .goto, .if_, .into, .let_, .lv, .manifest, .neqv, .or, .rem, .repeat_, .repeatUntil,
    .repeatWhile, .resultIs, .return_, .rv, .switchOn, .test, .to, .true_, .unless_, .until_,
    .valof, .vec, .while_]

def spelling : Keyword → Text
  | .and => "and".toList
  | .be => "be".toList
  | .break_ => "break".toList
  | .case => "case".toList
  | .default => "default".toList
  | .do_ => "do".toList
  | .eqv => "eqv".toList
  | .false_ => "false".toList
  | .finish => "finish".toList
  | .for_ => "for".toList
  | .get => "get".toList
  | .global => "global".toList
  | .goto => "goto".toList
  | .if_ => "if".toList
  | .into => "into".toList
  | .let_ => "let".toList
  | .lv => "lv".toList
  | .manifest => "manifest".toList
  | .neqv => "neqv".toList
  | .or => "or".toList
  | .rem => "rem".toList
  | .repeat_ => "repeat".toList
  | .repeatUntil => "repeatuntil".toList
  | .repeatWhile => "repeatwhile".toList
  | .resultIs => "resultis".toList
  | .return_ => "return".toList
  | .rv => "rv".toList
  | .switchOn => "switchon".toList
  | .test => "test".toList
  | .to => "to".toList
  | .true_ => "true".toList
  | .unless_ => "unless".toList
  | .until_ => "until".toList
  | .valof => "valof".toList
  | .vec => "vec".toList
  | .while_ => "while".toList

def label : Keyword → Text
  | .and => "And".toList
  | .be => "Be".toList
  | .break_ => "Break".toList
  | .case => "Case".toList
  | .default => "Default".toList
  | .do_ => "Do".toList
  | .eqv => "Eqv".toList
  | .false_ => "False".toList
  | .finish => "Finish".toList
  | .for_ => "For".toList
  | .get => "Get".toList
  | .global => "Global".toList
  | .goto => "Goto".toList
  | .if_ => "If".toList
  | .into => "Into".toList
  | .let_ => "Let".toList
  | .lv => "Lv".toList
  | .manifest => "Manifest".toList
  | .neqv => "Neqv".toList
  | .or => "Or".toList
  | .rem => "Rem".toList
  | .repeat_ => "Repeat".toList
  | .repeatUntil => "RepeatUntil".toList
  | .repeatWhile => "RepeatWhile".toList
  | .resultIs => "ResultIs".toList
  | .return_ => "Return".toList
  | .rv => "Rv".toList
  | .switchOn => "SwitchOn".toList
  | .test => "Test".toList
  | .to => "To".toList
  | .true_ => "True".toList
  | .unless_ => "Unless".toList
  | .until_ => "Until".toList
  | .valof => "Valof".toList
  | .vec => "Vec".toList
  | .while_ => "While".toList

def ofSpelling? (word : Text) : Option Keyword :=
  all.find? fun keyword => keyword.spelling == word

end Keyword

end Bcpl
