import Bcpl.Proofs.Source.Places

/-!
Bytes, and lines with columns, are two names for the same places of a text. A line starts on itself
(`index?_start`), a line and a column lead back to their byte (`exists_position`), and places come in
the same order under both names (`lex_position`); all of it is put together in
`LineTable.coordinates_ofText`.
-/

namespace Bcpl.LineTable

variable {text : Text} {byte index start : Nat}

theorem isSome_start?_iff {table : LineTable} :
    (table.start? index).isSome ↔ index < table.count := by
  simp [start?_eq, count_eq_length]

theorem index?_start (found : (ofText text).start? index = some start) :
    (ofText text).index? start = some index := by
  rw [start?_eq] at found
  obtain ⟨line, listed, rfl⟩ := Option.map_eq_some_iff.mp found
  obtain ⟨before, after, rfl, size, count, _⟩ := exists_append_of_lines listed
  rw [← size, index?_append, count]

theorem start?_strictMono {first second firstStart secondStart : Nat} (ordered : first < second)
    (firstAt : (ofText text).start? first = some firstStart)
    (secondAt : (ofText text).start? second = some secondStart) : firstStart < secondStart := by
  by_contra behind
  have reversed :=
    index?_mono (Nat.not_lt.mp behind) (index?_start secondAt) (index?_start firstAt)
  omega

theorem exists_position (inside : byte ≤ text.size) :
    ∃ index start, (ofText text).index? byte = some index ∧
      (ofText text).start? index = some start ∧ start ≤ byte ∧
      (ofText text).position? byte = some (index + 1, byte - start + 1) := by
  have found := index?_eq text byte
  rw [if_pos inside] at found
  obtain ⟨line, listed, started⟩ := exists_line_of_index? found
  have start : (ofText text).start? ((text.bytes.take byte).count 0x0a) = some line.start := by
    rw [start?_eq, listed]
    rfl
  exact ⟨_, line.start, found, start, started, position?_eq_some found listed⟩

/-- Behind a line feed the next line starts. -/
theorem start?_of_newline (newline : text.bytes[byte]? = some 0x0a)
    (found : (ofText text).index? byte = some index) :
    (ofText text).start? (index + 1) = some (byte + 1) := by
  obtain ⟨inside, _⟩ := List.getElem?_eq_some_iff.mp newline
  rw [Text.length_bytes] at inside
  obtain ⟨next, start, foundNext, started, reached, _⟩ := exists_position (Nat.succ_le_of_lt inside)
  have counted : next = index + 1 := by
    rw [index?_eq, if_pos (Nat.le_of_lt inside)] at found
    rw [index?_eq, if_pos (Nat.succ_le_of_lt inside), List.take_add_one, newline,
      List.count_append, Option.some.inj found] at foundNext
    exact (Option.some.inj foundNext).symm
  subst counted
  have beyond : byte < start := by
    by_contra early
    have reversed := index?_mono (Nat.not_lt.mp early) (index?_start started) found
    omega
  rw [started, Nat.le_antisymm reached beyond]

theorem lex_position {first second : Nat} (ordered : first < second) (inside : second ≤ text.size) :
    ∃ here there, (ofText text).position? first = some here ∧
      (ofText text).position? second = some there ∧ Prod.Lex (· < ·) (· < ·) here there := by
  obtain ⟨line, start, found, starts, started, here⟩ :=
    exists_position (Nat.le_of_lt (Nat.lt_of_lt_of_le ordered inside))
  obtain ⟨line', start', found', starts', started', there⟩ := exists_position inside
  refine ⟨_, _, here, there, ?_⟩
  rcases Nat.lt_or_eq_of_le (index?_mono (Nat.le_of_lt ordered) found found') with above | rfl
  · exact .left _ _ (Nat.succ_lt_succ above)
  · obtain rfl : start = start' := Option.some.inj (starts.symm.trans starts')
    apply Prod.Lex.right
    omega

/-- The places of a text as a table of its lines tells them: a line for each byte, a first byte for
each line, and a line with a column, both counted from one, for each byte. -/
structure Coordinates (text : Text) (table : LineTable) : Prop where
  counted : table.count = text.bytes.count 0x0a + 1
  index : ∀ byte, table.index? byte =
    if byte ≤ text.size then some ((text.bytes.take byte).count 0x0a) else none
  starts : ∀ index, (table.start? index).isSome ↔ index < table.count
  increasing : ∀ first second firstStart secondStart, first < second →
    table.start? first = some firstStart → table.start? second = some secondStart →
    firstStart < secondStart
  index_start : ∀ index start, table.start? index = some start → table.index? start = some index
  position : ∀ byte, byte ≤ text.size → ∃ index column start,
    table.position? byte = some (index + 1, column + 1) ∧ table.index? byte = some index ∧
      table.start? index = some start ∧ start + column = byte ∧
      (text.bytes[byte]? = some 0x0a → table.start? (index + 1) = some (byte + 1))
  ordered : ∀ first second, first < second → second ≤ text.size → ∃ here there,
    table.position? first = some here ∧ table.position? second = some there ∧
      Prod.Lex (· < ·) (· < ·) here there

/-- Bytes, lines and columns of every text lead to each other. The line of a byte is the number of
line feeds in front of it, so that a line feed is on the line it ends; lines start in order, each on
itself; a line and a column make up their byte; and positions are in the order of their bytes. -/
theorem coordinates_ofText (text : Text) : (ofText text).Coordinates text where
  counted := by rw [count_ofText, Text.count_newline_bytes]
  index := index?_eq text
  starts _ := isSome_start?_iff
  increasing _ _ _ _ := start?_strictMono
  index_start _ _ := index?_start
  position byte inside := by
    obtain ⟨index, start, found, starts, started, position⟩ := exists_position inside
    exact ⟨index, byte - start, start, position, found, starts, Nat.add_sub_cancel' started,
      fun newline => start?_of_newline newline found⟩
  ordered _ _ := lex_position

/-- A line feed is on the line that it ends, and the end of the text is on its last line. -/
example :
    let table := LineTable.ofText "$(\n$)\n".toList
    table.position? 2 = some (1, 3) ∧ table.position? 3 = some (2, 1) ∧
      table.position? 6 = some (3, 1) ∧ table.position? 7 = none := by
  decide +kernel

end Bcpl.LineTable
