import Bcpl.Token.Symbol
import Bcpl.Token.Keyword

/-!
Kinds of tokens, their order and the classes that decide where a `;` or a `do` may be left out.
-/

namespace Bcpl

inductive Kind where
  | illegal | eof | comment | name | number | stringConst
  | symbol (mark : Symbol)
  | keyword (word : Keyword)
deriving DecidableEq, Repr, Inhabited

namespace Kind

/-- Every kind, in increasing order: the kinds without a spelling of their own, the symbols, and
last the reserved words. -/
def all : List Kind :=
  [.illegal, .eof, .comment, .name, .number, .stringConst]
    ++ Symbol.all.map .symbol ++ Keyword.all.map .keyword

def rank (kind : Kind) : Nat := all.idxOf kind

instance : Ord Kind where
  compare first second := compare first.rank second.rank

/-- The one way in which a symbol or a reserved word is written. -/
def spelling? : Kind → Option Text
  | .symbol mark => some mark.spelling
  | .keyword word => some word.spelling
  | _ => none

def label : Kind → Text
  | .illegal => "Illegal".toList
  | .eof => "Eof".toList
  | .comment => "Comment".toList
  | .name => "Name".toList
  | .number => "Number".toList
  | .stringConst => "StringConst".toList
  | .symbol mark => mark.label
  | .keyword word => word.label

def description : Kind → Text
  | .illegal => "illegal character".toList
  | .eof => "end of file".toList
  | .comment => "comment".toList
  | .name => "name".toList
  | .number => "number".toList
  | .stringConst => "string constant".toList
  | .symbol mark => "`".toList ++ mark.spelling ++ "`".toList
  | .keyword word => "keyword `".toList ++ word.spelling ++ "`".toList

def isReserved : Kind → Bool
  | .keyword _ => true
  | _ => false

/-- Whether a token can end a command, so that a new line after it may part two commands. -/
def isCommandEnd : Kind → Bool
  | .name | .number | .stringConst => true
  | .symbol mark => [.rKet, .sectKet, .sKet].contains mark
  | .keyword word => [.break_, .finish, .repeat_, .return_, .true_, .false_].contains word
  | _ => false

/-- Whether a token starts a command that may follow on the same line without a `do`. -/
def isDoStart : Kind → Bool
  | .keyword word =>
      [.break_, .case, .default, .finish, .for_, .goto, .if_, .resultIs, .return_, .test, .unless_,
        .until_, .while_].contains word
  | _ => false

/-- Whether a token starts a command that may follow on a new line without a `;`. -/
def isSemicolonStart : Kind → Bool
  | .name => true
  | .symbol mark => [.rBra, .sectBra].contains mark
  | .keyword word => [.lv, .rv, .valof].contains word || isDoStart (.keyword word)
  | _ => false

end Kind

end Bcpl
