import Mathlib.Data.List.TakeWhile
import Bcpl.Proofs.Text.Slice
import Bcpl.Text.Cursor

/-!
Cursors that are moved on and on. What the moves take from a text, one after the other, is the text
up to what is left of it. So an offset that a cursor once had cuts the text between two characters,
and the slice from there on is what was taken since then (`Cursor.keeps_place`).
-/

namespace Bcpl.Cursor

inductive Move where
  | bump
  | bumpIf (c : Char)
  | bumpWhile (test : Char → Bool)

namespace Move

/-- What a move takes from the front of a text. -/
def taken (text : Text) : Move → Text
  | .bump => text.take 1
  | .bumpIf c => if text.head? = some c then [c] else []
  | .bumpWhile test => text.takeWhile test

/-- What moves take from a text, each from the front of what the ones before it left. -/
def allTaken : Text → List Move → Text
  | _, [] => []
  | text, move :: moves =>
      let front := move.taken text
      front ++ allTaken (text.drop front.length) moves

end Move

def move (cursor : Cursor) : Move → Cursor
  | .bump => cursor.bump
  | .bumpIf c => (cursor.bumpIf c).2
  | .bumpWhile test => (cursor.bumpWhile test).2

def afterMoves (cursor : Cursor) (moves : List Move) : Cursor := moves.foldl move cursor

/-- Between a cursor and a later one over the same text stands a piece of it. -/
structure Passes (cursor after : Cursor) (piece : Text) : Prop where
  text : after.text = cursor.text
  rest : cursor.rest = piece ++ after.rest
  offset : after.offset = cursor.offset + piece.size

namespace Passes

variable {cursor middle after : Cursor} {piece : Text}

theorem refl (cursor : Cursor) : cursor.Passes cursor [] := ⟨rfl, rfl, rfl⟩

theorem trans {next : Text} (first : cursor.Passes middle piece)
    (second : middle.Passes after next) : cursor.Passes after (piece ++ next) where
  text := second.text.trans first.text
  rest := by rw [first.rest, second.rest, List.append_assoc]
  offset := by rw [second.offset, first.offset, Text.size_append, Nat.add_assoc]

/-- A cursor whose offset counts the bytes in front of its rest finds the piece again as a slice. -/
theorem slice?_eq {text front : Text} (passes : cursor.Passes after piece)
    (whole : text = front ++ cursor.rest) (offset : cursor.offset = front.size) :
    text.slice? cursor.offset after.offset = some piece := by
  rw [passes.offset, offset, whole, passes.rest, ← List.append_assoc]
  exact Text.slice?_append front piece after.rest

end Passes

section Step

variable (cursor : Cursor)

theorem passes_advance (count : Nat) :
    cursor.Passes (cursor.advance count) (cursor.rest.take count) :=
  ⟨rfl, (List.take_append_drop count cursor.rest).symm, rfl⟩

theorem advance_advance (first second : Nat) :
    (cursor.advance first).advance second = cursor.advance (first + second) := by
  simp only [advance, List.drop_drop, List.take_add, Text.size_append, Nat.add_assoc]

theorem take_run (test : Char → Bool) :
    cursor.rest.take (cursor.run test).length = cursor.run test :=
  (List.prefix_iff_eq_take.mp (List.takeWhile_prefix test)).symm

/-- A front of the rest is passed by a run exactly if its characters all satisfy the test. -/
theorem prefix_run_iff {test : Char → Bool} {front : Text} :
    front <+: cursor.run test ↔ front <+: cursor.rest ∧ ∀ c ∈ front, test c = true := by
  constructor
  · intro passed
    exact ⟨passed.trans (List.takeWhile_prefix test),
      fun c member => List.mem_takeWhile_imp (passed.subset member)⟩
  · rintro ⟨⟨behind, whole⟩, satisfied⟩
    rw [run, ← whole, List.takeWhile_append_of_pos satisfied]
    exact List.prefix_append _ _

theorem bumpIf_fst_iff {c : Char} : (cursor.bumpIf c).1 = true ↔ cursor.current? = some c := by
  rw [bumpIf]
  split
  · next current => simp [current]
  · next other => simp [other]

theorem passes_move (move : Move) : cursor.Passes (cursor.move move) (move.taken cursor.rest) := by
  cases move with
  | bump => exact cursor.passes_advance 1
  | bumpIf c =>
      -- On its character the move is a single step, and elsewhere it is none.
      by_cases current : cursor.rest.head? = some c
      · have moved : cursor.move (.bumpIf c) = cursor.advance 1 := by
          rw [Cursor.move, bumpIf, current?, if_pos current]
          rfl
        have taken : Move.taken cursor.rest (.bumpIf c) = cursor.rest.take 1 := by
          rw [Move.taken, if_pos current, List.take_one, current, Option.toList_some]
        rw [moved, taken]
        exact cursor.passes_advance 1
      · rw [Cursor.move, bumpIf, current?, if_neg current, Move.taken, if_neg current]
        exact .refl cursor
  | bumpWhile test =>
      have passes := cursor.passes_advance (cursor.run test).length
      rwa [take_run] at passes

end Step

theorem passes_afterMoves (cursor : Cursor) (moves : List Move) :
    cursor.Passes (cursor.afterMoves moves) (Move.allTaken cursor.rest moves) := by
  induction moves generalizing cursor with
  | nil => exact .refl cursor
  | cons move moves ih =>
      -- The later moves take from what this one left, so their piece stands right behind its own.
      have first := cursor.passes_move move
      have left : cursor.rest.drop (move.taken cursor.rest).length = (cursor.move move).rest :=
        (congrArg (List.drop _) first.rest).trans List.drop_left
      rw [Move.allTaken, left]
      exact first.trans (ih (cursor.move move))

/-- Moves from the front of a text part it in what they take and what is left. -/
theorem parts_afterMoves (text : Text) (moves : List Move) :
    let cursor := (ofText text).afterMoves moves
    cursor.text = text ∧ text = Move.allTaken text moves ++ cursor.rest ∧
      cursor.offset = Text.size (Move.allTaken text moves) := by
  have passes := (ofText text).passes_afterMoves moves
  exact ⟨passes.text, passes.rest, passes.offset.trans (Nat.zero_add _)⟩

/-- A cursor keeps its place, whatever moves it makes. What its moves have taken, followed by the
rest, is the text. The offset counts the bytes of what was taken, which are those that the rest
lacks, so it never lies inside a character and never falls back; and the slice from an earlier
offset is there, and is what was taken since then. A next move `bumpIf` passes its character exactly
if it is the current one, and a next move `bumpWhile` passes, and counts, the longest front of the
rest whose characters all satisfy the test. -/
theorem keeps_place (text : Text) (earlier later : List Move) :
    let before := (ofText text).afterMoves earlier
    let cursor := (ofText text).afterMoves (earlier ++ later)
    let taken := Move.allTaken text (earlier ++ later)
    text = taken ++ cursor.rest ∧
      cursor.offset = taken.size ∧ cursor.offset + cursor.rest.size = text.size ∧
      text.Boundary cursor.offset ∧ before.offset ≤ cursor.offset ∧
      cursor.sliceFrom? before.offset = some (Move.allTaken before.rest later) ∧
      (∀ c, ((cursor.bumpIf c).1 = true ↔ cursor.current? = some c) ∧
        cursor.rest = (if cursor.current? = some c then [c] else []) ++ (cursor.bumpIf c).2.rest) ∧
      ∀ test, ∃ piece, cursor.rest = piece ++ (cursor.bumpWhile test).2.rest ∧
        (cursor.bumpWhile test).1 = piece.length ∧ (∀ c ∈ piece, test c = true) ∧
        ∀ front, front <+: cursor.rest → (∀ c ∈ front, test c = true) → front <+: piece := by
  intro before cursor taken
  have since : before.Passes cursor (Move.allTaken before.rest later) := by
    have joined : cursor = before.afterMoves later := List.foldl_append
    exact joined ▸ before.passes_afterMoves later
  obtain ⟨_, parted, started⟩ := parts_afterMoves text earlier
  obtain ⟨same, whole, offset⟩ := parts_afterMoves text (earlier ++ later)
  refine ⟨whole, offset, ?_, ⟨taken, cursor.rest, whole, offset.symm⟩, ?_, ?_, fun c => ?_,
    fun test => ?_⟩
  · rw [whole, Text.size_append, ← offset]
  · rw [since.offset]
    exact Nat.le_add_right _ _
  · rw [sliceFrom?, same]
    exact since.slice?_eq parted started
  · exact ⟨cursor.bumpIf_fst_iff, (cursor.passes_move (.bumpIf c)).rest⟩
  · refine ⟨cursor.run test, (cursor.passes_move (.bumpWhile test)).rest, rfl, ?_, ?_⟩
    · exact fun c member => List.mem_takeWhile_imp member
    · exact fun front shown satisfied => cursor.prefix_run_iff.mpr ⟨shown, satisfied⟩

/-- The accented letter takes two bytes, and the run stops in front of the last character. -/
theorem keeps_place_accented :
    let text : Text := ['é', '$', '(', '(', 'x']
    let cursor := (ofText text).afterMoves ([.bump] ++ [.bumpIf '$'])
    text.Boundary cursor.offset ∧ cursor.offset = 3 ∧ cursor.sliceFrom? 2 = some ['$'] ∧
      ∃ piece, cursor.rest = piece ++ (cursor.bumpWhile (· = '(')).2.rest ∧
        (cursor.bumpWhile (· = '(')).1 = piece.length ∧ (∀ c ∈ piece, decide (c = '(') = true) ∧
        ['(', '('] <+: piece := by
  intro text cursor
  obtain ⟨_, _, _, cuts, _, slice, _, runs⟩ := keeps_place text [.bump] [.bumpIf '$']
  obtain ⟨piece, rest, counted, satisfied, longest⟩ := runs (· = '(')
  exact ⟨cuts, rfl, slice, piece, rest, counted, satisfied,
    longest ['(', '('] (by decide) (by simp)⟩

end Bcpl.Cursor
