import Bcpl.Checked

/-!
The lines of a text, found by the bytes of its line breaks. A line break belongs to the line it
ends, and the end of the text to the last line.
-/

namespace Bcpl

structure Line where
  /-- The byte where the line starts. -/
  start : Nat
  /-- What stands before the line break. -/
  content : Text
deriving DecidableEq, Repr, Inhabited

/-- A line as it is shown, without a carriage return at its end. -/
def Line.shown (line : Line) : Text :=
  if line.content.getLast? = some '\r' then line.content.dropLast else line.content

/-- The places of the line feeds among some bytes, the first of which is at `start`. -/
def lineFeedsFrom (start : Nat) (bytes : List UInt8) : List Nat :=
  (bytes.zipIdx start).filterMap fun (byte, place) => if byte = 0x0a then some place else none

/-- Look for a number among increasing ones, in a part that is halved until it is found. The answer
is its place, or else the place where it would have to be put in. -/
def bisect (numbers : List Nat) (number low high : Nat) (inside : high ≤ numbers.length) :
    Except Nat Nat :=
  if _ : low < high then
    let middle := (low + high) / 2
    if numbers[middle] = number then .ok middle
    else if numbers[middle] < number then bisect numbers number (middle + 1) high inside
    else bisect numbers number low middle (by omega)
  else .error low
termination_by high - low

/-- A text with the bytes of its line breaks. -/
structure LineTable where
  text : Text
  breaks : List Nat
  listed : breaks = lineFeedsFrom 0 text.bytes
deriving DecidableEq, Repr

namespace LineTable

def ofText (text : Text) : LineTable := ⟨text, lineFeedsFrom 0 text.bytes, rfl⟩

/-- The number of bytes of the text. -/
def size (table : LineTable) : Nat := table.text.size

/-- The number of lines. A text without a line break is one line. -/
def count (table : LineTable) : Nat := 1 + table.breaks.length

/-- The line break at a byte, or else the first one behind it. -/
def search (table : LineTable) (byte : Nat) : Except Nat Nat :=
  bisect table.breaks byte 0 table.breaks.length (Nat.le_refl _)

/-- The line of a byte, counted from zero. -/
def index? (table : LineTable) (byte : Nat) : Option Nat :=
  if table.size < byte then none
  else
    match table.search byte with
    | .ok index => some index
    | .error index => some index

def findStart (table : LineTable) (index : Nat) : Except Fault (Option Nat) :=
  if index = 0 then .ok (some 0)
  else do
    let before ← Checked.subtract index 1
    return table.breaks[before]?.map (· + 1)

def findLine (table : LineTable) (index : Nat) : Except Fault (Option Line) := do
  match ← table.findStart index with
  | none => return none
  | some start =>
      let stop := table.breaks[index]?.getD table.size
      let content ← Checked.slice table.text start stop
      return some ⟨start, content⟩

/-- The line and the column of a byte, both counted from one. -/
def findPosition (table : LineTable) (byte : Nat) : Except Fault (Option (Nat × Nat)) :=
  match table.index? byte with
  | none => .ok none
  | some index => do
      match ← table.findStart index with
      | none => return none
      | some start =>
          let column ← Checked.subtract byte start
          return some (index + 1, column + 1)

/-! What is found, without the faults. There are none (`findStart_eq`, `findLine_eq`,
`findPosition_eq`). -/

def start? (table : LineTable) (index : Nat) : Option Nat :=
  (table.findStart index).toOption.join

def line? (table : LineTable) (index : Nat) : Option Text :=
  (table.findLine index).toOption.join.map Line.shown

def position? (table : LineTable) (byte : Nat) : Option (Nat × Nat) :=
  (table.findPosition byte).toOption.join

end LineTable

end Bcpl
