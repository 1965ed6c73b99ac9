import Bcpl.CommandLine.Pattern.Flags

/-!
The smallest pieces of a pattern: characters, sets of them and places between them.

Nothing is known here about letters in two cases outside ASCII, nor about which characters of all
scripts are digits, white space or letters, and what would need that is refused. Matches start and
stop between characters, so a piece that can match only a part of one is refused as well.
-/

namespace Bcpl.Pattern

inductive Item where
  /-- One character, perhaps written as the number of a byte. -/
  | char (c : Char) (isByte : Bool)
  /-- The digits, white space or letters, or all characters but these. -/
  | set (inverted : Bool)
  /-- A set of ASCII characters with a name, or all characters but these. -/
  | named (inverted : Bool)
  /-- Any character in a line. -/
  | any
  /-- The start or the end of a line or of the text. -/
  | border
  /-- A place where a word starts or stops, or one where none does. -/
  | wordBorder
deriving DecidableEq, Repr

namespace Item

def isAllowed (flags : Flags) : Item → Bool
  | char c isByte => if flags.allScripts then !flags.ignoresCase else !isByte || c.toNat < 0x80
  | set inverted => !flags.allScripts && !inverted
  | any => flags.allScripts
  | border => true
  | wordBorder => !flags.allScripts
  | named _ => false

def isMember (flags : Flags) : Item → Bool
  | char c _ => if flags.allScripts then !flags.ignoresCase else c.toNat < 0x80
  | set inverted => !flags.allScripts && !inverted
  | named inverted => if flags.allScripts then !flags.ignoresCase else !inverted
  | _ => false

end Item

def controlLetters : List (Char × Nat) :=
  [('a', 0x07), ('t', 0x09), ('n', 0x0A), ('v', 0x0B), ('f', 0x0C), ('r', 0x0D)]

/-- What a character behind a backslash stands for. Letters and digits that mean nothing are kept
for later use, and so are all characters outside ASCII. -/
def Item.ofEscaped? (c : Char) : Option Item :=
  if "dsw".toList.contains c then some (.set false)
  else if "DSW".toList.contains c then some (.set true)
  else if "Az".toList.contains c then some .border
  else if "bB<>".toList.contains c then some .wordBorder
  else
    match controlLetters.lookup c with
    | some number => some (.char (Char.ofNat number) false)
    | none => if c.toNat < 0x80 && !c.isAlphanum then some (.char c false) else none

def hexDigit? (c : Char) : Option Nat :=
  if c.isDigit then some (c.toNat - '0'.toNat)
  else if 'a' ≤ c && c ≤ 'f' then some (c.toNat - 'a'.toNat + 10)
  else if 'A' ≤ c && c ≤ 'F' then some (c.toNat - 'A'.toNat + 10)
  else none

/-- The number that `count` more digits in base sixteen make of the digits before them, and the text
behind them. -/
def hexNumber? (flags : Flags) : Nat → Nat → Text → Option (Nat × Text)
  | 0, number, text => some (number, flags.skip text)
  | count + 1, number, text =>
      match flags.skip text with
      | [] => none
      | c :: rest =>
          (hexDigit? c).bind fun digit => hexNumber? flags count (16 * number + digit) rest

/-- The character with a number of `count` digits in base sixteen, and the text behind it. -/
def codePoint? (flags : Flags) (count : Nat) (isByte : Bool) (text : Text) :
    Option (Item × Text) := do
  let (number, rest) ← hexNumber? flags count 0 text
  if number.isValidChar then some (.char (Char.ofNat number) isByte, rest) else none

def escaped? (flags : Flags) : Text → Option (Item × Text)
  | [] => none
  | 'x' :: rest => codePoint? flags 2 true rest
  | 'u' :: rest => codePoint? flags 4 false rest
  | 'U' :: rest => codePoint? flags 8 false rest
  | c :: rest => (Item.ofEscaped? c).map fun item => (item, rest)

def item? (flags : Flags) : Text → Option (Item × Text)
  | [] => none
  | '\\' :: rest => escaped? flags rest
  | '.' :: rest => some (.any, rest)
  | '^' :: rest | '$' :: rest => some (.border, rest)
  | c :: rest => some (.char c false, rest)

/-- The piece at the front of a text inside brackets, where only the backslash is special. -/
def member? (flags : Flags) (text : Text) : Option (Item × Text) := do
  let (item, rest) ←
    match text with
    | [] => none
    | '\\' :: rest => escaped? flags rest
    | c :: rest => some (.char c false, rest)
  if item.isMember flags then some (item, rest) else none

end Bcpl.Pattern
