import Bcpl.Text.Emoji
import Bcpl.Text.Width

/-!
Ligatures of scripts that are drawn in fewer columns than their letters. A ligature is found from
its end: the character that can close one is kept in mind until the characters before it show
whether it does.
-/

namespace Bcpl.Text

/-- Code points without a column that come between the two letters of an Arabic ligature and part
them, as inclusive ranges in increasing order. -/
def interruptingRanges : List (Nat × Nat) :=
  [(0x605, 0x605), (0x890, 0x891), (0x8E2, 0x8E2), (0x9BE, 0x9BE), (0x9D7, 0x9D7), (0xB3E, 0xB3E),
    (0xB57, 0xB57), (0xBBE, 0xBBE), (0xBD7, 0xBD7), (0xCC0, 0xCC0), (0xCC2, 0xCC2), (0xCC7, 0xCC8),
    (0xCCA, 0xCCB), (0xCD5, 0xCD6), (0xD3E, 0xD3E), (0xD4E, 0xD4E), (0xD57, 0xD57), (0xDCF, 0xDCF),
    (0xDDF, 0xDDF), (0x1160, 0x11FF), (0x180E, 0x180E), (0x1B35, 0x1B35), (0x1B3B, 0x1B3B),
    (0x1B3D, 0x1B3D), (0x1B43, 0x1B43), (0x200C, 0x200D), (0x2065, 0x2069), (0x302E, 0x302F),
    (0x3164, 0x3164), (0xA8FA, 0xA8FA), (0xD7B0, 0xD7C6), (0xD7CB, 0xD7FB), (0xFF9E, 0xFFA0),
    (0xFFF0, 0xFFF8), (0x111C2, 0x111C3), (0x1133E, 0x1133E), (0x11357, 0x11357),
    (0x114B0, 0x114B0), (0x114BD, 0x114BD), (0x115AF, 0x115AF), (0x11930, 0x11930),
    (0x1193F, 0x1193F), (0x11941, 0x11941), (0x11A3A, 0x11A3A), (0x11A84, 0x11A89),
    (0x11D46, 0x11D46), (0x11F02, 0x11F02), (0x1D165, 0x1D165), (0x1D16E, 0x1D172),
    (0xE0000, 0xE0000), (0xE0002, 0xE001F), (0xE0080, 0xE00FF), (0xE01F0, 0xE0FFF)]

/-- Whether a character between a lam and an alef leaves their ligature whole. -/
def isTransparentMark (c : Char) : Bool :=
  charWidth c == 0 && !inRanges interruptingRanges c

/-- Whether a character inside a ligature of another script leaves it whole: a mark that is never
drawn. -/
def isIgnoredMark (c : Char) : Bool :=
  inRanges [(0x34F, 0x34F), (0x17B4, 0x17B5), (0x180B, 0x180D), (0x180F, 0x180F),
    (0xFE00, 0xFE0F), (0xE0100, 0xE01EF)] c

def isAlef (c : Char) : Bool :=
  inRanges [(0x622, 0x623), (0x625, 0x625), (0x627, 0x627), (0x671, 0x673), (0x675, 0x675),
    (0x773, 0x774), (0x870, 0x882)] c

def isLam (c : Char) : Bool :=
  inRanges [(0x644, 0x644), (0x6B5, 0x6B8), (0x76A, 0x76A), (0x8A6, 0x8A6), (0x8C7, 0x8C7)] c

/-- Whether a character is a Tifinagh consonant that takes part in pairs. -/
def isTifinaghConsonant (c : Char) : Bool := inRanges [(0x2D31, 0x2D65), (0x2D6F, 0x2D6F)] c

/-- Whether a character is a Khmer letter that the sign for a subscript draws below the letter
before it. -/
def isSubscriptLetter (c : Char) : Bool :=
  inRanges [(0x1780, 0x1782), (0x1784, 0x1787), (0x1789, 0x178C), (0x178E, 0x1793),
    (0x1795, 0x1798), (0x179B, 0x179D), (0x17A0, 0x17A0), (0x17A2, 0x17A2), (0x17A7, 0x17A7),
    (0x17AB, 0x17AC), (0x17AF, 0x17AF)] c

/-- The end of what can be a ligature. Some need a joiner in front of their last letter. -/
inductive LigatureEnd where
  | alef
  | lamed (joined : Bool)
  | bugineseYa (joined : Bool)
  /-- A Buginese vowel sign, a joiner and a ya. -/
  | bugineseVowel
  | tifinagh (joined : Bool)
  /-- A Tifinagh consonant behind the sign that joins it to another. -/
  | tifinaghJoined
  | lisuTone
  | orkhonI (joined : Bool)
  | subscriptLetter
deriving DecidableEq, Repr

namespace LigatureEnd

def ofChar? (c : Char) : Option LigatureEnd :=
  if isAlef c then some .alef
  else if c.toNat == 0x5DC then some (.lamed false)
  else if c.toNat == 0x1A10 then some (.bugineseYa false)
  else if isTifinaghConsonant c then some (.tifinagh false)
  else if inRanges [(0xA4FC, 0xA4FD)] c then some .lisuTone
  else if c.toNat == 0x10C03 then some (.orkhonI false)
  else if isSubscriptLetter c then some .subscriptLetter
  else none

/-- The same end behind a joiner. -/
def behindJoiner : LigatureEnd → LigatureEnd
  | .lamed _ => .lamed true
  | .bugineseYa _ => .bugineseYa true
  | .tifinagh _ => .tifinagh true
  | .orkhonI _ => .orkhonI true
  | other => other

/-- The columns that a letter adds in front of the end of a ligature, and what it leaves to be
closed. Only some letters fit an end. -/
def extend? (ending : LigatureEnd) (c : Char) : Option (Int × Option LigatureEnd) :=
  match ending with
  | .alef => if isLam c then some (0, none) else none
  | .lamed joined => if joined && c.toNat == 0x5D0 then some (0, none) else none
  | .bugineseYa joined =>
      if joined && c.toNat == 0x1A17 then some (0, some .bugineseVowel) else none
  | .bugineseVowel => if c.toNat == 0x1A15 then some (0, none) else none
  | .tifinagh joined =>
      if c.toNat == 0x2D7F then some (1, some .tifinaghJoined)
      else if joined && isTifinaghConsonant c then some (0, none)
      else none
  | .tifinaghJoined => if isTifinaghConsonant c then some (-1, none) else none
  | .lisuTone => if inRanges [(0xA4F8, 0xA4FB)] c then some (0, none) else none
  | .orkhonI joined => if joined && c.toNat == 0x10C32 then some (0, none) else none
  | .subscriptLetter => if c.toNat == 0x17D2 then some (-1, none) else none

/-- Whether a mark in front of the end of a ligature leaves it as it is. -/
def passes (ending : LigatureEnd) (c : Char) : Bool :=
  if ending = .alef then isTransparentMark c else isIgnoredMark c

/-- The columns that a character adds in front of the end of a ligature, and what is left to be
closed, if the character belongs to the ligature. -/
def precede? (ending : LigatureEnd) (c : Char) : Option (Int × Option LigatureEnd) :=
  if c = joiner && ending != .alef then some (0, some ending.behindJoiner)
  else if ending.passes c then some (0, some ending)
  else ending.extend? c

end LigatureEnd

end Bcpl.Text
