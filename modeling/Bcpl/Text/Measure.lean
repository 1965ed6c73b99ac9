import Bcpl.Text.Ligature

/-!
The number of columns a text takes on a screen. It is measured from its end to its front, because
what a text begins with decides whether a character put before it has columns of its own or is
drawn together with it. All other characters have the columns they have alone.
-/

namespace Bcpl.Text

inductive Presentation where
  | text
  | emoji
deriving DecidableEq, Repr

/-- What a text begins with, as far as characters before it may be drawn together with it. -/
inductive Lead where
  | plain
  | lineFeed
  | emoji
  | modifier
  | indicator
  /-- Two indicators or more. -/
  | indicators
  | joinedEmoji
  | joinedKeycap
  /-- One indicator in front of a joined emoji. -/
  | joinedIndicator
  | joinedIndicators (even : Bool)
  /-- Letters in front of the end of the tags of a flag. -/
  | tagLetters (count : Nat)
  | tagDigits (count : Nat)
  | ligature (ending : LigatureEnd)
deriving DecidableEq, Repr

/-- The front of a text: a selector, which asks for how the character before it is drawn, and what
comes behind it. -/
structure Front where
  lead : Lead
  selector : Option Presentation := none
deriving DecidableEq, Repr

namespace Lead

def ofChar (c : Char) : Lead :=
  if isIndicator c then .indicator
  else if isModifier c then .modifier
  else if isEmoji c then .emoji
  else (LigatureEnd.ofChar? c).elim .plain .ligature

/-- Whether what a text begins with can still be joined across a selector. -/
def outlasts (lead : Lead) (selector : Presentation) : Bool :=
  match lead with
  | .ligature _ => true
  | .joinedEmoji | .joinedKeycap => selector = .emoji
  | _ => false

def select (lead : Lead) (selector : Presentation) : Front :=
  ⟨if lead.outlasts selector then lead else .plain, some selector⟩

/-- Whether an emoji in front belongs to the emoji that the text begins with. -/
def isJoined : Lead → Bool
  | .joinedEmoji | .joinedKeycap => true
  | _ => false

/-- The tags of a flag, with one character more in front. A region has three to six letters, or
three digits and up to four letters. -/
def precedeTags? (letters digits : Nat) (c : Char) : Option Lead :=
  if isTagLetter c && digits == 0 && letters < 6 then some (.tagLetters (letters + 1))
  else if isTagDigit c && letters ≤ 4 && digits < 3 then some (.tagDigits (digits + 1))
  else if c = blackFlag && (3 ≤ letters || digits == 3) then some .emoji
  else none

/-- The columns that a character adds in front of a text, and what the text begins with then, if
the character is drawn together with what the text begins with. -/
def join? (lead : Lead) (c : Char) : Option (Int × Lead) :=
  match lead with
  | .ligature ending =>
      (ending.precede? c).map fun (columns, rest) => (columns, rest.elim .plain .ligature)
  | .emoji => if c = joiner then some (0, .joinedEmoji) else none
  | .modifier =>
      if isModifierBase c then some (0, .emoji)
      else if c = joiner then some (0, .joinedEmoji)
      else none
  | .indicator => if isIndicator c then some (1, .indicators) else none
  | .indicators =>
      if isIndicator c then some (1, .indicators)
      else if c = joiner then some (0, .joinedEmoji)
      else none
  | .joinedEmoji =>
      if c = keycap then some (0, .joinedKeycap)
      else if isIndicator c then some (1, .joinedIndicator)
      else if isModifier c then some (0, .modifier)
      else if c = cancelTag then some (0, .tagLetters 0)
      else if isEmoji c then some (0, .emoji)
      else none
  | .joinedIndicator => if isIndicator c then some (-1, .joinedIndicators true) else none
  | .joinedIndicators even =>
      if isIndicator c then some (if even then 3 else -1, .joinedIndicators !even)
      else if c = joiner then some (0, .joinedEmoji)
      else none
  | .tagLetters count => (precedeTags? count 0 c).map (0, ·)
  | .tagDigits count => (precedeTags? 0 count c).map (0, ·)
  | .plain | .lineFeed | .joinedKeycap => none

/-- The columns that a character adds in front of a text, and the front of the text then. A line
end of two characters takes one column. -/
def precede (lead : Lead) (c : Char) : Int × Front :=
  if c = '\n' then (1, ⟨.lineFeed, none⟩)
  else if c = '\r' && lead = .lineFeed then (0, ⟨.plain, none⟩)
  else if c.toNat < 0x80 then (1, ⟨.plain, none⟩)
  else if c = emojiSelector then (0, lead.select .emoji)
  else if c = textSelector then (0, lead.select .text)
  else
    match lead.join? c with
    | some (columns, next) => (columns, ⟨next, none⟩)
    | none => (charWidth c, ⟨ofChar c, none⟩)

end Lead

/-- The columns that a character adds in front of a text, and the front of the text then. A
selector counts if the character can be drawn in the way it asks for. -/
def Front.precede (front : Front) (c : Char) : Int × Front :=
  match front.selector with
  | some .emoji =>
      if isVariant c then (if front.lead.isJoined then 0 else 2, ⟨.emoji, none⟩)
      else (if front.lead.isJoined then Lead.plain else front.lead).precede c
  | some .text => if isTextVariant c then (1, ⟨.plain, none⟩) else front.lead.precede c
  | none => front.lead.precede c

def measure : Text → Int × Front
  | [] => (0, ⟨.plain, none⟩)
  | c :: rest =>
      let (columns, front) := measure rest
      let (added, next) := front.precede c
      (columns + added, next)

def width (text : Text) : Nat := (measure text).1.toNat

end Bcpl.Text
