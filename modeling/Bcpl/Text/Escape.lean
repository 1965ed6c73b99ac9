import Bcpl.Text.Printable
import Bcpl.Text.Extending

/-!
Texts shown on one line. `escape` replaces quotes, backslashes, the common control characters and
every character that is not drawn; `quoted` does the same between double quotes.
-/

namespace Bcpl.Text

def hexadecimal (n : Nat) : Text :=
  Nat.toDigits 16 n

def escapeCodePoint (c : Char) : Text :=
  ['\\', 'u', '{'] ++ hexadecimal c.toNat ++ ['}']

def escapeLetter? : Char → Option Char
  | '\x00' => some '0'
  | '\t' => some 't'
  | '\r' => some 'r'
  | '\n' => some 'n'
  | '\'' => some '\''
  | '"' => some '"'
  | '\\' => some '\\'
  | _ => none

def escapeChar (c : Char) : Text :=
  match escapeLetter? c with
  | some letter => ['\\', letter]
  | none => if isPrintable c then [c] else escapeCodePoint c

/-- The first character of a text has nothing before it to join. -/
def escapeFirst (c : Char) : Text :=
  if isExtending c then escapeCodePoint c else escapeChar c

/-- A text on one line. A character that joins the one before it is copied, except in front. -/
def escape : Text → Text
  | [] => []
  | c :: rest => escapeFirst c ++ rest.flatMap escapeChar

/-- Between double quotes a single quote is copied, and no character is joined to another. -/
def quotedChar (c : Char) : Text :=
  if c = '\'' then [c] else escapeFirst c

def quoted (text : Text) : Text :=
  ['"'] ++ text.flatMap quotedChar ++ ['"']

end Bcpl.Text
