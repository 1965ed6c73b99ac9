import Bcpl.Proofs.Checked
import Bcpl.Proofs.Source.LineTable

/-!
Reading a text by its table of lines never fails: every line can be cut out of the text
(`LineTable.slice?_of_mem`), and every place of the text, also one inside a character, is on a line
that starts no later (`LineTable.exists_line_of_index?`).
-/

namespace Bcpl

namespace Line

theorem pairwise_start_placedFrom (start : Nat) (contents : List Text) :
    (placedFrom start contents).Pairwise fun first second => first.start < second.start := by
  induction contents generalizing start with
  | nil => exact .nil
  | cons content rest ih =>
      refine List.pairwise_cons.mpr ⟨fun line member => ?_, ih _⟩
      have behind := le_start_of_mem_placedFrom member
      change start < line.start
      omega

/-- What stands in front of a line has as many line breaks as the line has others before it, and
behind the line is another line break or the end of the text. -/
theorem exists_append_of_getElem? {start index : Nat} {text : Text} {line : Line}
    (found : (linesFrom start text)[index]? = some line) :
    ∃ before after, text = before ++ (line.content ++ after) ∧ start + before.size = line.start ∧
      before.count '\n' = index ∧ '\n' ∉ line.content ∧
      (after = [] ∨ after.head? = some '\n') := by
  induction text generalizing start index line with
  | nil =>
      have lines : linesFrom start [] = [⟨start, []⟩] := rfl
      rw [lines, List.getElem?_singleton] at found
      split at found
      · next zero =>
          obtain rfl := Option.some.inj found
          exact ⟨[], [], rfl, rfl, zero.symm, List.not_mem_nil, .inl rfl⟩
      · contradiction
  | cons c rest ih =>
      by_cases newline : c = '\n'
      · subst newline
        rw [linesFrom_newline] at found
        cases index with
        | zero =>
            obtain rfl := Option.some.inj found
            exact ⟨[], '\n' :: rest, rfl, rfl, rfl, List.not_mem_nil, .inr rfl⟩
        | succ index =>
            obtain ⟨before, after, rfl, size, count, single, ends⟩ := ih found
            refine ⟨'\n' :: before, after, rfl, ?_, ?_, single, ends⟩
            · rw [← size, Text.size, utf8Size_newline, Nat.add_assoc]
            · rw [List.count_cons_self, count]
      · obtain ⟨content, others, behind, whole⟩ := linesFrom_cons newline start rest
        rw [whole] at found
        cases index with
        | zero =>
            -- The first line of the rest begins where the rest does.
            obtain rfl := Option.some.inj found
            have first : (linesFrom (start + c.utf8Size) rest)[0]? =
                some ⟨start + c.utf8Size, content⟩ := by rw [behind]; rfl
            obtain ⟨before, after, same, size, _, single, ends⟩ := ih first
            have none : before = [] := by
              by_contra some
              have positive := Text.size_pos some
              simp only at size
              omega
            subst none
            exact ⟨[], after, congrArg (c :: ·) same, rfl, rfl,
              List.not_mem_cons_of_ne_of_not_mem (Ne.symm newline) single, ends⟩
        | succ index =>
            have later : (linesFrom (start + c.utf8Size) rest)[index + 1]? = some line := by
              rw [behind]
              exact found
            obtain ⟨before, after, rfl, size, count, single, ends⟩ := ih later
            refine ⟨c :: before, after, rfl, ?_, ?_, single, ends⟩
            · rw [← size, Text.size, Nat.add_assoc]
            · rw [List.count_cons_of_ne newline, count]

/-- In lines that are in order, the last one that starts no later than a place is found by counting
those behind the first. -/
theorem exists_getElem?_countP {first : Line} {rest : List Line} {byte : Nat}
    (ordered : (first :: rest).Pairwise fun first second => first.start < second.start)
    (starts : first.start ≤ byte) :
    ∃ line, (first :: rest)[rest.countP fun line => line.start ≤ byte]? = some line ∧
      line.start ≤ byte := by
  induction rest generalizing first with
  | nil => exact ⟨first, rfl, starts⟩
  | cons second rest ih =>
      obtain ⟨_, ordered⟩ := List.pairwise_cons.mp ordered
      by_cases reached : second.start ≤ byte
      · rw [List.countP_cons_of_pos (by simpa using reached), List.getElem?_cons_succ]
        exact ih ordered reached
      · have beyond : (second :: rest).countP (fun line => line.start ≤ byte) = 0 := by
          refine List.countP_eq_zero.mpr (List.forall_mem_cons.mpr ⟨by simpa using reached, ?_⟩)
          intro line member
          have behind := (List.pairwise_cons.mp ordered).1 line member
          simp only [decide_eq_true_eq]
          omega
        rw [beyond]
        exact ⟨first, rfl, starts⟩

end Line

namespace LineTable

variable {text : Text} {line : Line}

theorem exists_append_of_lines {index : Nat} (found : (ofText text).lines[index]? = some line) :
    ∃ before after, text = before ++ (line.content ++ after) ∧ before.size = line.start ∧
      before.count '\n' = index ∧ '\n' ∉ line.content ∧
      (after = [] ∨ after.head? = some '\n') := by
  obtain ⟨before, after, whole, size, rest⟩ := Line.exists_append_of_getElem? found
  exact ⟨before, after, whole, by rw [← size, Nat.zero_add], rest⟩

theorem stands_of_mem (member : line ∈ (ofText text).lines) : line.Stands text := by
  obtain ⟨index, found⟩ := List.getElem?_of_mem member
  obtain ⟨before, after, whole, size, _⟩ := exists_append_of_lines found
  exact ⟨before, after, whole, size⟩

theorem slice?_of_mem (member : line ∈ (ofText text).lines) :
    text.slice? line.start (line.start + line.content.size) = some line.content := by
  obtain ⟨before, after, whole, size⟩ := stands_of_mem member
  rw [Text.slice?_eq_some_iff]
  exact ⟨before, after, by rw [whole, List.append_assoc], size, by rw [size]⟩

theorem stands_of_lines {table : LineTable} {index : Nat}
    (found : table.lines[index]? = some line) : line.Stands table.text := by
  rw [table.eq_ofText] at found
  exact stands_of_mem (List.mem_of_getElem? found)

theorem exists_line_of_index? {table : LineTable} {byte index : Nat}
    (found : table.index? byte = some index) :
    ∃ line, table.lines[index]? = some line ∧ line.start ≤ byte := by
  obtain ⟨content, split⟩ := table.exists_lines_eq_cons
  have ordered := Line.pairwise_start_placedFrom 0 (table.text.splitOn '\n')
  change table.lines.Pairwise _ at ordered
  rw [← (index?_eq_some_iff.mp found).2, ← countP_tail_lines]
  rw [split] at ordered ⊢
  exact Line.exists_getElem?_countP ordered (Nat.zero_le byte)

/-- A byte is found in the column behind the bytes of its line that are in front of it. -/
theorem findPosition_eq_some {table : LineTable} {line : Line} {byte index : Nat}
    (found : table.index? byte = some index) (listed : table.lines[index]? = some line) :
    table.findPosition byte = .ok (some (index + 1, byte - line.start + 1)) := by
  obtain ⟨own, listed', started⟩ := exists_line_of_index? found
  cases listed.symm.trans listed'
  simp only [findPosition, found, findStart_eq, listed]
  change (Checked.subtract byte line.start >>= _) = _
  rw [Checked.subtract_of_le started]
  rfl

theorem findPosition_eq (table : LineTable) (byte : Nat) :
    table.findPosition byte = .ok (table.position? byte) := by
  rw [position?]
  cases found : table.index? byte with
  | none => simp only [findPosition, found]; rfl
  | some index =>
      obtain ⟨line, listed, _⟩ := exists_line_of_index? found
      rw [findPosition_eq_some found listed]
      rfl

theorem position?_eq_some {table : LineTable} {line : Line} {byte index : Nat}
    (found : table.index? byte = some index) (listed : table.lines[index]? = some line) :
    table.position? byte = some (index + 1, byte - line.start + 1) := by
  rw [position?, findPosition_eq_some found listed]
  rfl

end LineTable

end Bcpl
