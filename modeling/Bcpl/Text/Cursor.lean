import Bcpl.Text.Basic

/-!
A place in a text. A cursor sits on the character that has not been passed yet, and counts the
bytes before it.
-/

namespace Bcpl

structure Cursor where
  text : Text
  /-- What has not been passed yet. -/
  rest : Text
  /-- The bytes passed so far. -/
  offset : Nat
deriving DecidableEq, Repr

namespace Cursor

def ofText (text : Text) : Cursor := ⟨text, text, 0⟩

def current? (cursor : Cursor) : Option Char := cursor.rest.head?

/-- Pass the next `count` characters, or as many as there are. -/
def advance (cursor : Cursor) (count : Nat) : Cursor :=
  { cursor with
    rest := cursor.rest.drop count
    offset := cursor.offset + Text.size (cursor.rest.take count) }

def bump (cursor : Cursor) : Cursor := cursor.advance 1

/-- Pass the character under the cursor if it is `c`, and say whether it was. -/
def bumpIf (cursor : Cursor) (c : Char) : Bool × Cursor :=
  if cursor.current? = some c then (true, cursor.bump) else (false, cursor)

/-- The characters from the cursor on that satisfy a test, up to the first that does not. -/
def run (cursor : Cursor) (test : Char → Bool) : Text := cursor.rest.takeWhile test

def bumpWhile (cursor : Cursor) (test : Char → Bool) : Nat × Cursor :=
  let count := (cursor.run test).length
  (count, cursor.advance count)

def sliceFrom? (cursor : Cursor) (start : Nat) : Option Text :=
  cursor.text.slice? start cursor.offset

theorem length_rest_advance (cursor : Cursor) (count : Nat) :
    (cursor.advance count).rest.length = cursor.rest.length - count := by
  simp [advance]

theorem rest_bumpWhile (cursor : Cursor) (test : Char → Bool) :
    (cursor.bumpWhile test).2.rest = cursor.rest.dropWhile test := by
  have split : cursor.run test ++ cursor.rest.dropWhile test = cursor.rest :=
    List.takeWhile_append_dropWhile
  simp only [bumpWhile, advance]
  exact (congrArg (List.drop (cursor.run test).length) split.symm).trans List.drop_left

/-- Behind a run stands no character that would have been passed as well. -/
theorem not_of_current?_bumpWhile {cursor : Cursor} {test : Char → Bool} {c : Char}
    (current : (cursor.bumpWhile test).2.current? = some c) : test c = false := by
  rw [current?, rest_bumpWhile] at current
  have stopped := List.head?_dropWhile_not test cursor.rest
  simpa only [current, Bool.not_eq_true] using stopped

end Cursor

end Bcpl
