import Bcpl.Text.Basic

/-!
Operations that have no result for some of their arguments. What is drawn with one of them is not
drawn at all where it has none, and the fault says why.
-/

namespace Bcpl

inductive Fault where
  /-- A text is cut inside a character. -/
  | splitCharacter
  /-- A text is cut behind its end, or up to a place before the one it is cut from. -/
  | outsideText
  /-- A number is taken from a smaller one. -/
  | underflow
  /-- The least number allowed is larger than the greatest. -/
  | reversedBounds
  /-- A list has nothing at a place. -/
  | missingItem
  | logarithmOfZero
  /-- The lines to be shown have numbers of more than 64 bits. -/
  | lineOverflow
  /-- An underline starts further to the right than a field can be padded to. -/
  | wideIndent
deriving DecidableEq, Repr, Inhabited

namespace Checked

def subtract (first second : Nat) : Except Fault Nat :=
  if second ≤ first then .ok (first - second) else .error .underflow

/-- The number nearest to a given one that is at least `low` and at most `high`. -/
def clamp (number low high : Nat) : Except Fault Nat :=
  if low ≤ high then .ok (max low (min number high)) else .error .reversedBounds

def item {α : Type} (list : List α) (place : Nat) : Except Fault α :=
  match list[place]? with
  | some value => .ok value
  | none => .error .missingItem

def slice (text : Text) (start stop : Nat) : Except Fault Text :=
  if start ≤ stop ∧ stop ≤ text.size then
    match text.slice? start stop with
    | some piece => .ok piece
    | none => .error .splitCharacter
  else .error .outsideText

/-- How often a number can be divided by ten before less than one ten is left. -/
def tens (number : Nat) : Nat :=
  if number < 10 then 0 else 1 + tens (number / 10)

/-- The logarithm to base ten, rounded down. -/
def logarithm (number : Nat) : Except Fault Nat :=
  if number = 0 then .error .logarithmOfZero else .ok (tens number)

end Checked

end Bcpl
