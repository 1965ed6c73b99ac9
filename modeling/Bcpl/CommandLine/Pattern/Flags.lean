import Bcpl.Text.Blank

/-!
Flags of a pattern. They say how the pieces behind them are read and matched, up to the end of the
group that they stand in.
-/

namespace Bcpl.Pattern

structure Flags where
  /-- Letters match in both cases. -/
  ignoresCase : Bool := false
  /-- Characters are those of all scripts. Otherwise they are the bytes of their UTF-8 form. -/
  allScripts : Bool := true
  /-- White space and comments may stand between the pieces. -/
  isSpaced : Bool := false
deriving DecidableEq, Repr, Inhabited

def flagLetters : List Char := "imsUuRx".toList

/-- Whether a text is a list of flags, of which those behind a minus sign are switched off. -/
def isFlagList (text : Text) : Bool :=
  let on := text.takeWhile (· != '-')
  let off := (text.drop on.length).drop 1
  let letters := on ++ off
  letters.all flagLetters.contains && letters.eraseDups.length == letters.length
    && (on.length == text.length || !off.isEmpty)

namespace Flags

def switch (flags : Flags) (list : Text) : Flags :=
  let on := list.takeWhile (· != '-')
  let off := list.drop on.length
  let after (letter : Char) (before : Bool) :=
    (before || on.contains letter) && !off.contains letter
  { ignoresCase := after 'i' flags.ignoresCase
    allScripts := after 'u' flags.allScripts
    isSpaced := after 'x' flags.isSpaced }

/-- The text behind white space and behind comments, which go from `#` to the end of a line. -/
def skipSpace (inComment : Bool) : Text → Text
  | [] => []
  | c :: rest =>
      if inComment then skipSpace (c != '\n') rest
      else if c == '#' then skipSpace true rest
      else if Text.isBlank c then skipSpace false rest
      else c :: rest

def skip (flags : Flags) (text : Text) : Text :=
  if flags.isSpaced then skipSpace false text else text

/-- The character that decides whether a hyphen in front of a text makes a range. It is searched
behind white space and behind the mark of one comment, but not behind the comment. -/
def lookAhead? (flags : Flags) (text : Text) : Option Char :=
  if flags.isSpaced then
    match text.dropWhile Text.isBlank with
    | '#' :: rest => (rest.dropWhile Text.isBlank).head?
    | rest => rest.head?
  else text.head?

end Flags

end Bcpl.Pattern
