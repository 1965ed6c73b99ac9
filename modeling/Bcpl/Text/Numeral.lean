import Bcpl.Text.Basic

/-!
Numbers written in decimal.
-/

namespace Bcpl.Text

def unsigned (text : Text) : Text :=
  if text.head? = some '+' || text.head? = some '-' then text.drop 1 else text

def isExponent : Text → Bool
  | 'e' :: rest | 'E' :: rest => !(unsigned rest).isEmpty && (unsigned rest).all Char.isDigit
  | _ => false

/-- Whether a text is a decimal number, perhaps with a sign, a fraction and an exponent, or one of
the names of what is not a finite number. One of the two sides of the point may be empty. -/
def isNumeral (text : Text) : Bool :=
  let text := unsigned text
  let whole := text.takeWhile Char.isDigit
  let tail := text.drop whole.length
  let fraction := if tail.head? = some '.' then (tail.drop 1).takeWhile Char.isDigit else []
  let exponent := if tail.head? = some '.' then (tail.drop 1).drop fraction.length else tail
  ["inf", "infinity", "nan"].any (fun name => name.toList == text.map Char.toLower)
    || !(whole ++ fraction).isEmpty && (exponent.isEmpty || isExponent exponent)

end Bcpl.Text
