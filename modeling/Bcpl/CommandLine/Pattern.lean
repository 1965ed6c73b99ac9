import Bcpl.CommandLine.Pattern.Group

/-!
Which texts are patterns. A pattern is what a filter compares the value of a field with: characters,
sets of characters, groups, choices and repetitions. Here it only matters whether a text is one.
Braces do not count repetitions, because a brace ends the field that a pattern stands in.
-/

namespace Bcpl.Pattern

def nestingLimit : Nat := 250

structure Reading where
  /-- The innermost open group. -/
  group : Group := {}
  /-- The groups around it. -/
  outer : List Group := []
  /-- The names of all groups. -/
  names : List Text := []
deriving DecidableEq, Repr, Inhabited

namespace Reading

def addPiece (reading : Reading) (depth : Nat) : Reading :=
  { reading with group := reading.group.add (.piece depth) }

/-- A reading behind an opening parenthesis. No two groups have the same name. -/
def enter? (reading : Reading) : Group.Opening → Option Reading
  | .switch flags => some { reading with group := { reading.group.add .flags with flags } }
  | .group flags name =>
      if name.any reading.names.contains then none
      else
        some
          { group := { flags }
            outer := reading.group :: reading.outer
            names := name.toList ++ reading.names }

/-- A reading behind a closing parenthesis. The flags of the group around are back in force. -/
def leave? (reading : Reading) : Option Reading :=
  match reading.outer with
  | [] => none
  | parent :: outer =>
      some { reading with group := parent.add (.piece (reading.group.depth + 1)), outer }

/-- A reading behind a mark of repetition. A question mark right behind it belongs to it. -/
def repeatLast? (reading : Reading) (rest : Text) : Option (Reading × Text) := do
  let group ← reading.group.repeatLast?
  return ({ reading with group }, if rest.head? == some '?' then rest.drop 1 else rest)

def step? (reading : Reading) (c : Char) (rest : Text) : Option (Reading × Text) :=
  let flags := reading.group.flags
  match c with
  | '(' => do
      let (opening, rest) ← Group.open? flags rest
      return (← reading.enter? opening, rest)
  | ')' => reading.leave?.map fun reading => (reading, rest)
  | '|' => some ({ reading with group := reading.group.nextBranch }, rest)
  | '[' => (Bracket.ofText? flags rest).map fun (depth, rest) => (reading.addPiece depth, rest)
  | '*' | '+' | '?' => reading.repeatLast? rest
  | '{' => none
  | _ => do
      let (item, rest) ← item? flags (c :: rest)
      if item.isAllowed flags then some (reading.addPiece 0, rest) else none

/-- Whether a text completes a pattern. Each step takes at least one character, and `fuel` bounds
their number. -/
def isCompletedBy : Nat → Reading → Text → Bool
  | 0, _, _ => false
  | fuel + 1, reading, text =>
      match reading.group.flags.skip text with
      | [] => reading.outer.isEmpty && reading.group.depth ≤ nestingLimit
      | c :: rest =>
          (reading.step? c rest).any fun (reading, rest) => isCompletedBy fuel reading rest

end Reading

def isPattern (text : Text) : Bool := Reading.isCompletedBy (text.length + 1) {} text

end Bcpl.Pattern
