import Bcpl.Text.Basic

/-!
Operators, punctuation marks and section brackets, each with its one spelling.
-/

namespace Bcpl

inductive Symbol where
  | ass | colon | comma | cond | div | eq | ge | gr | le | logAnd | logOr | ls | lShift | minus
  | ne | not | plus | rBra | rKet | rShift | sBra | sectBra | sectKet | semicolon | sKet | star
deriving DecidableEq, Repr, Inhabited

namespace Symbol

def all : List Symbol :=
  [.ass, .colon, .comma, .cond, .div, .eq, .ge, .gr, .le, .logAnd, .logOr, .ls, .lShift, .minus,
    .ne, .not, .plus, .rBra, .rKet, .rShift, .sBra, .sectBra, .sectKet, .semicolon, .sKet, .star]

def spelling : Symbol → Text
  | .ass => ":=".toList
  | .colon => ":".toList
  | .comma => ",".toList
  | .cond => "->".toList
  | .div => "/".toList
  | .eq => "=".toList
  | .ge => ">=".toList
  | .gr => ">".toList
  | .le => "<=".toList
  | .logAnd => "&".toList
  | .logOr => "|".toList
  | .ls => "<".toList
  | .lShift => "<<".toList
  | .minus => "-".toList
  | .ne => "!=".toList
  | .not => "!".toList
  | .plus => "+".toList
  | .rBra => "(".toList
  | .rKet => ")".toList
  | .rShift => ">>".toList
  | .sBra => "[".toList
  | .sectBra => "$(".toList
  | .sectKet => "$)".toList
  | .semicolon => ";".toList
  | .sKet => "]".toList
  | .star => "*".toList

def label : Symbol → Text
  | .ass => "Ass".toList
  | .colon => "Colon".toList
  | .comma => "Comma".toList
  | .cond => "Cond".toList
  | .div => "Div".toList
  | .eq => "Eq".toList
  | .ge => "Ge".toList
  | .gr => "Gr".toList
  | .le => "Le".toList
  | .logAnd => "LogAnd".toList
  | .logOr => "LogOr".toList
  | .ls => "Ls".toList
  | .lShift => "LShift".toList
  | .minus => "Minus".toList
  | .ne => "Ne".toList
  | .not => "Not".toList
  | .plus => "Plus".toList
  | .rBra => "RBra".toList
  | .rKet => "RKet".toList
  | .rShift => "RShift".toList
  | .sBra => "SBra".toList
  | .sectBra => "SectBra".toList
  | .sectKet => "SectKet".toList
  | .semicolon => "Semicolon".toList
  | .sKet => "SKet".toList
  | .star => "Star".toList

end Symbol

end Bcpl
