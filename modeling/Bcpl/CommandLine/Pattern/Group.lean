import Bcpl.CommandLine.Pattern.Bracket
import Bcpl.Text.Alphanumeric

/-!
Groups of a pattern: choices between branches, which are sequences of parts. The whole pattern is
read as one more group.
-/

namespace Bcpl.Pattern

inductive Part where
  /-- Something that matches, with how deep it is nested. -/
  | piece (depth : Nat)
  /-- Flags for what follows. -/
  | flags
deriving DecidableEq, Repr

def Part.depth : Part → Nat
  | piece depth => depth
  | flags => 0

structure Group where
  /-- How deep the branches before the last are nested. -/
  branches : List Nat := []
  /-- The parts of the last branch, from last to first. -/
  parts : List Part := []
  /-- The flags for what follows. -/
  flags : Flags := {}
deriving DecidableEq, Repr, Inhabited

namespace Group

def branchDepth (group : Group) : Nat := nesting (group.parts.map Part.depth)

def depth (group : Group) : Nat := nesting (group.branchDepth :: group.branches)

def add (group : Group) (part : Part) : Group :=
  { group with parts := part :: group.parts }

def nextBranch (group : Group) : Group :=
  { group with branches := group.branchDepth :: group.branches, parts := [] }

/-- A group in which the last part may occur more or less often. -/
def repeatLast? (group : Group) : Option Group :=
  match group.parts with
  | .piece depth :: parts => some { group with parts := .piece (depth + 1) :: parts }
  | _ => none

def isName : Text → Bool
  | [] => false
  | first :: rest =>
      (first == '_' || Text.isLetter first)
        && rest.all fun c => c == '_' || c == '.' || c == '[' || c == ']' || Text.isAlphanumeric c

inductive Opening where
  /-- A group with its flags and perhaps a name. -/
  | group (flags : Flags) (name : Option Text)
  /-- Flags for what follows in the same group. -/
  | switch (flags : Flags)
deriving DecidableEq, Repr

def openNamed? (flags : Flags) (text : Text) : Option (Opening × Text) :=
  let name := text.takeWhile (· != '>')
  match text.drop name.length with
  | _ :: rest => if isName name then some (.group flags (some name), rest) else none
  | [] => none

def open? (flags : Flags) (text : Text) : Option (Opening × Text) :=
  match flags.skip text with
  | '?' :: 'P' :: '<' :: rest | '?' :: '<' :: rest => openNamed? flags rest
  | '?' :: rest =>
      let list := rest.takeWhile fun c => c != ':' && c != ')'
      if !isFlagList list then none
      else
        match rest.drop list.length with
        | ':' :: rest => some (.group (flags.switch list) none, rest)
        | _ :: rest => if list.isEmpty then none else some (.switch (flags.switch list), rest)
        | [] => none
  | rest => some (.group flags none, rest)

end Group

end Bcpl.Pattern
