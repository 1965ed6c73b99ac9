import Bcpl.CommandLine.Pattern.Item

/-!
Sets of characters in brackets. Inside are characters, ranges, sets with names and more brackets,
and between them operators: `&&` for what is in both sides, `--` for what is not in the right one,
and `~~` for what is in one of them only. Either side may be empty.
-/

namespace Bcpl.Pattern

/-- How deep parts are nested that stand side by side: one deeper than the deepest of them. A part
that stands alone is nested no deeper. -/
def nesting (depths : List Nat) : Nat :=
  let deepest := depths.foldl max 0
  if depths.length ≤ 1 then deepest else deepest + 1

structure Bracket where
  /-- How deep all is nested that lies left of the last operator, if there is one. -/
  left : Option Nat := none
  /-- How deep the members behind the last operator are nested. -/
  members : List Nat := []
  /-- Whether there is nothing yet but hyphens. -/
  isFresh : Bool := true
deriving DecidableEq, Repr, Inhabited

namespace Bracket

def add (bracket : Bracket) (depth : Nat) : Bracket :=
  { bracket with members := depth :: bracket.members, isFresh := false }

/-- How deep the inside of a bracket is nested. Operators group to the left. -/
def depth (bracket : Bracket) : Nat :=
  match bracket.left with
  | none => nesting bracket.members
  | some left => max left (nesting bracket.members) + 1

def addOperator (bracket : Bracket) : Bracket :=
  { left := some bracket.depth, isFresh := false }

/-- The text inside a bracket. A bracket that excludes its members lets parts of characters in,
unless the characters are those of all scripts. -/
def open? (flags : Flags) (text : Text) : Option Text :=
  match flags.skip text with
  | '^' :: rest => if flags.allScripts then some rest else none
  | rest => some rest

def setNames : List Text :=
  ["alnum", "alpha", "ascii", "blank", "cntrl", "digit", "graph", "lower", "print", "punct",
    "space", "upper", "word", "xdigit"].map String.toList

/-- The set with a name that an opening bracket in front of a text starts. -/
def namedSet? : Text → Option (Item × Text)
  | ':' :: rest =>
      let inverted := rest.head? == some '^'
      let inner := if inverted then rest.drop 1 else rest
      let name := inner.takeWhile (· != ':')
      match inner.drop name.length with
      | ':' :: ']' :: rest => if setNames.contains name then some (.named inverted, rest) else none
      | _ => none
  | _ => none

/-- The text behind a single member or a range, whose ends are two characters in order. A hyphen in
front of the closing bracket or of another hyphen makes no range. -/
def range? (flags : Flags) (text : Text) : Option Text := do
  let (first, rest) ← member? flags text
  match flags.skip rest with
  | '-' :: tail =>
      let ahead := flags.lookAhead? tail
      if ahead == some ']' || ahead == some '-' then some ('-' :: tail)
      else
        match first, ← member? flags (flags.skip tail) with
        | .char first _, (.char last _, rest) => if first ≤ last then some rest else none
        | _, _ => none
  | rest => some rest

/-- A bracket after what stands at the front of a text, other than brackets that open or close.
Hyphens right behind the opening bracket stand for themselves. -/
def step? (flags : Flags) (bracket : Bracket) (text : Text) : Option (Bracket × Text) :=
  match text with
  | '-' :: rest =>
      if bracket.isFresh then
        if (Item.char '-' false).isMember flags then
          some ({ bracket.add 0 with isFresh := true }, rest)
        else none
      else if rest.head? == some '-' then some (bracket.addOperator, rest.drop 1)
      else (range? flags text).map fun rest => (bracket.add 0, rest)
  | '&' :: '&' :: rest | '~' :: '~' :: rest => some (bracket.addOperator, rest)
  | _ => (range? flags text).map fun rest => (bracket.add 0, rest)

/-- How deep the outermost bracket is nested, and the text behind it. `outer` are the brackets
around the one that is read. A closing bracket that comes first stands for itself. Each step takes
at least one character, and `fuel` bounds their number. -/
def close? (flags : Flags) : Nat → List Bracket → Bracket → Text → Option (Nat × Text)
  | 0, _, _, _ => none
  | fuel + 1, outer, bracket, text =>
      match flags.skip text with
      | [] => none
      | '[' :: rest =>
          match namedSet? rest with
          | some (item, rest) =>
              if item.isMember flags then close? flags fuel outer (bracket.add 0) rest else none
          | none => (open? flags rest).bind (close? flags fuel (bracket :: outer) {})
      | ']' :: rest =>
          if bracket.isFresh && bracket.members.isEmpty then
            if (Item.char ']' false).isMember flags then
              close? flags fuel outer (bracket.add 0) rest
            else none
          else
            match outer with
            | [] => some (bracket.depth + 1, rest)
            | parent :: outer => close? flags fuel outer (parent.add (bracket.depth + 1)) rest
      | text =>
          (step? flags bracket text).bind fun (bracket, rest) =>
            close? flags fuel outer bracket rest

/-- How deep the bracket is nested that stands open in front of a text, and the text behind it. -/
def ofText? (flags : Flags) (text : Text) : Option (Nat × Text) :=
  (open? flags text).bind (close? flags (text.length + 1) [] {})

end Bracket

end Bcpl.Pattern
