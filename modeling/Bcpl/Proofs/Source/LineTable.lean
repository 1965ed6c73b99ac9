import Mathlib.Data.List.DropRight
import Bcpl.Proofs.Source.Breaks
import Bcpl.Proofs.Text.Splitting
import Bcpl.Source.Basic

/-!
The lines of a text and its line breaks. There is one line more than there are line breaks
(`count_ofText`), and each line but the first starts behind one of them (`findStart_eq`).
-/

namespace Bcpl

namespace Text

/-- What stands behind the last line break of a text. -/
def lastLine (text : Text) : Text := text.rtakeWhile (· ≠ '\n')

theorem newline_notMem_lastLine (text : Text) : '\n' ∉ text.lastLine := fun newline => by
  simpa using List.mem_rtakeWhile_imp newline

theorem exists_append_lastLine (text : Text) :
    ∃ front, text = front ++ text.lastLine ∧ (front = [] ∨ front.getLast? = some '\n') := by
  refine ⟨text.rdropWhile (· ≠ '\n'), List.rdropWhile_append_rtakeWhile.symm, ?_⟩
  by_cases none : text.rdropWhile (· ≠ '\n') = []
  · exact .inl none
  · have last := List.rdropWhile_last_not _ _ none
    rw [List.getLast?_eq_some_getLast none]
    exact .inr (by simpa using last)

end Text

namespace Line

def placedFrom (start : Nat) : List Text → List Line
  | [] => []
  | content :: rest => ⟨start, content⟩ :: placedFrom (start + Text.size content + 1) rest

@[simp] theorem length_placedFrom (start : Nat) (contents : List Text) :
    (placedFrom start contents).length = contents.length := by
  induction contents generalizing start with
  | nil => rfl
  | cons content rest ih => simp [placedFrom, ih]

theorem le_start_of_mem_placedFrom {start : Nat} {contents : List Text} {line : Line}
    (member : line ∈ placedFrom start contents) : start ≤ line.start := by
  induction contents generalizing start with
  | nil => contradiction
  | cons content rest ih =>
      rcases List.mem_cons.mp member with rfl | later
      · exact Nat.le_refl start
      · have behind := ih later
        omega

/-- A line stands in a text. -/
def Stands (text : Text) (line : Line) : Prop :=
  ∃ before after, text = before ++ (line.content ++ after) ∧ before.size = line.start

/-- The lines of a text that starts at a byte. -/
def linesFrom (start : Nat) (text : Text) : List Line :=
  placedFrom start (text.splitOn '\n')

@[simp] theorem utf8Size_newline : Char.utf8Size '\n' = 1 := by decide

theorem linesFrom_newline (start : Nat) (rest : Text) :
    linesFrom start ('\n' :: rest) = ⟨start, []⟩ :: linesFrom (start + 1) rest := by
  simp [linesFrom, Text.splitOn, placedFrom, Text.size]

/-- A character in front of a text goes to its first line, and the other lines stay what they
are. -/
theorem linesFrom_cons {c : Char} (other : c ≠ '\n') (start : Nat) (rest : Text) :
    ∃ content others, linesFrom (start + c.utf8Size) rest = ⟨start + c.utf8Size, content⟩ :: others ∧
      linesFrom start (c :: rest) = ⟨start, c :: content⟩ :: others := by
  obtain ⟨first, others, split⟩ := List.exists_cons_of_ne_nil (Text.splitOn_ne_nil '\n' rest)
  refine ⟨first, placedFrom (start + c.utf8Size + Text.size first + 1) others, ?_, ?_⟩
  · rw [linesFrom, split, placedFrom]
  · simp only [linesFrom, Text.splitOn, if_neg other, split, placedFrom, Text.size, Nat.add_assoc]

theorem tail_linesFrom_cons {c : Char} (other : c ≠ '\n') (start : Nat) (rest : Text) :
    (linesFrom start (c :: rest)).tail = (linesFrom (start + c.utf8Size) rest).tail := by
  obtain ⟨content, others, behind, whole⟩ := linesFrom_cons other start rest
  rw [behind, whole]
  rfl

/-- Every line but the first starts behind a line feed. -/
theorem map_start_tail_linesFrom (start : Nat) (text : Text) :
    (linesFrom start text).tail.map Line.start =
      (lineFeedsFrom start text.bytes).map (· + 1) := by
  induction text generalizing start with
  | nil => rfl
  | cons c rest ih =>
      rw [Text.bytes_cons]
      by_cases newline : c = '\n'
      · subst newline
        obtain ⟨first, others, split⟩ :=
          List.exists_cons_of_ne_nil (Text.splitOn_ne_nil '\n' rest)
        have lines : linesFrom (start + 1) rest =
            ⟨start + 1, first⟩ :: (linesFrom (start + 1) rest).tail := by
          rw [linesFrom, split]
          rfl
        rw [linesFrom_newline, List.tail_cons, lines, List.map_cons, ih, Text.encode_newline,
          List.singleton_append, lineFeedsFrom_cons, if_pos rfl]
        rfl
      · rw [tail_linesFrom_cons newline, ih, lineFeedsFrom_append,
          lineFeedsFrom_of_notMem (Text.newline_notMem_encode newline), List.nil_append,
          String.length_utf8EncodeChar]

theorem linesFrom_of_not_mem {content : Text} (single : '\n' ∉ content) (start : Nat) :
    linesFrom start content = [⟨start, content⟩] := by
  induction content generalizing start with
  | nil => rfl
  | cons c content ih =>
      obtain ⟨other, rest⟩ := List.ne_and_not_mem_of_not_mem_cons single
      obtain ⟨shorter, others, behind, whole⟩ := linesFrom_cons (Ne.symm other) start content
      rw [ih rest] at behind
      obtain ⟨head, rfl⟩ := List.cons.inj behind
      cases head
      exact whole

theorem linesFrom_append (start : Nat) (before after : Text) :
    linesFrom start (before ++ '\n' :: after) =
      linesFrom start before ++ linesFrom (start + Text.size before + 1) after := by
  induction before generalizing start with
  | nil => exact linesFrom_newline start after
  | cons c before ih =>
      have moved := ih (start + c.utf8Size)
      rw [List.cons_append, Text.size, ← Nat.add_assoc start]
      by_cases newline : c = '\n'
      · subst newline
        rw [utf8Size_newline] at moved ⊢
        rw [linesFrom_newline, linesFrom_newline, moved, List.cons_append]
      · obtain ⟨content, others, behind, whole⟩ := linesFrom_cons newline start before
        obtain ⟨content', others', behind', whole'⟩ :=
          linesFrom_cons newline start (before ++ '\n' :: after)
        rw [behind, behind', List.cons_append] at moved
        obtain ⟨head, rfl⟩ := List.cons.inj moved
        cases head
        rw [whole, whole', List.cons_append]

/-- What stands between the last line break in front of a place and the next one behind it is a
line. -/
theorem linesFrom_getElem? {front content after : Text} (single : '\n' ∉ content)
    (starts : front = [] ∨ front.getLast? = some '\n')
    (ends : after = [] ∨ after.head? = some '\n') (start : Nat) :
    (linesFrom start (front ++ (content ++ after)))[front.count '\n']? =
      some ⟨start + Text.size front, content⟩ := by
  have first (start : Nat) : (linesFrom start (content ++ after))[0]? = some ⟨start, content⟩ := by
    rcases ends with rfl | newline
    · rw [List.append_nil, linesFrom_of_not_mem single]
      rfl
    · obtain ⟨others, rfl⟩ := List.head?_eq_some_iff.mp newline
      rw [linesFrom_append, linesFrom_of_not_mem single]
      rfl
  rcases starts with rfl | newline
  · exact first start
  · obtain ⟨lines, rfl⟩ := List.getLast?_eq_some_iff.mp newline
    have length : (linesFrom start lines).length = (lines ++ ['\n']).count '\n' := by
      simp [linesFrom, Text.length_splitOn]
    have size : start + Text.size (lines ++ ['\n']) = start + Text.size lines + 1 := by
      simp [Text.size, Nat.add_assoc]
    rw [List.append_assoc, List.singleton_append, linesFrom_append, ← length, size,
      List.getElem?_append_right (Nat.le_refl _), Nat.sub_self]
    exact first _

end Line

namespace LineTable

/-- The lines of the text, one after the other. -/
def lines (table : LineTable) : List Line := Line.linesFrom 0 table.text

section Table

variable (table : LineTable)

theorem map_start_tail_lines : table.lines.tail.map Line.start = table.breaks.map (· + 1) := by
  rw [lines, Line.map_start_tail_linesFrom, table.listed]

theorem exists_lines_eq_cons :
    ∃ content, table.lines = ⟨0, content⟩ :: table.lines.tail := by
  obtain ⟨content, others, split⟩ :=
    List.exists_cons_of_ne_nil (Text.splitOn_ne_nil '\n' table.text)
  refine ⟨content, ?_⟩
  rw [lines, Line.linesFrom, split]
  rfl

theorem count_eq_length : table.count = table.lines.length := by
  obtain ⟨content, split⟩ := table.exists_lines_eq_cons
  have length := congrArg List.length table.map_start_tail_lines
  simp only [List.length_map] at length
  rw [split, List.length_cons, length, count, Nat.add_comm]

theorem findStart_succ (index : Nat) :
    table.findStart (index + 1) = .ok (table.breaks[index]?.map (· + 1)) := by
  rw [findStart, if_neg (Nat.succ_ne_zero index), Checked.subtract, if_pos (Nat.le_add_left 1 index)]
  rfl

/-- A line starts behind the line break before it, and the first line with the text. -/
theorem findStart_eq (index : Nat) :
    table.findStart index = .ok (table.lines[index]?.map Line.start) := by
  obtain ⟨content, split⟩ := table.exists_lines_eq_cons
  rw [split]
  cases index with
  | zero => rfl
  | succ index =>
      have starts : table.lines.tail[index]?.map Line.start = table.breaks[index]?.map (· + 1) := by
        rw [← List.getElem?_map, map_start_tail_lines, List.getElem?_map]
      rw [findStart_succ, List.getElem?_cons_succ, starts]

theorem start?_eq (index : Nat) : table.start? index = table.lines[index]?.map Line.start := by
  rw [start?, findStart_eq]
  rfl

/-- The line of a byte is counted by the starts of the lines as well. -/
theorem countP_tail_lines (byte : Nat) :
    table.lines.tail.countP (fun line => line.start ≤ byte) =
      (table.text.bytes.take byte).count 0x0a := by
  have counted := countP_lineFeedsFrom 0 byte table.text.bytes
  rw [← table.listed, Nat.zero_add] at counted
  have starts : table.lines.tail.countP (fun line => line.start ≤ byte) =
      (table.lines.tail.map Line.start).countP (· ≤ byte) := by
    rw [List.countP_map]
    rfl
  rw [starts, map_start_tail_lines, List.countP_map, ← counted]
  rfl

end Table

theorem count_ofText (text : Text) : (ofText text).count = text.count '\n' + 1 := by
  rw [count, (ofText text).listed, length_lineFeedsFrom, Nat.add_comm]
  exact congrArg (· + 1) text.count_newline_bytes

theorem index?_lt_count {table : LineTable} {byte index : Nat}
    (found : table.index? byte = some index) : index < table.count := by
  have counted := (index?_eq_some_iff.mp found).2
  rw [← countP_tail_lines] at counted
  have bounded := List.countP_le_length (p := fun line : Line => decide (line.start ≤ byte))
    (l := table.lines.tail)
  obtain ⟨content, split⟩ := table.exists_lines_eq_cons
  rw [count_eq_length, split, List.length_cons]
  omega

/-- The line of a byte is the number of line feeds in front of it. -/
theorem index?_eq (text : Text) (byte : Nat) :
    (ofText text).index? byte =
      if byte ≤ text.size then some ((text.bytes.take byte).count 0x0a) else none :=
  (ofText text).index?_eq_ite byte

theorem index?_append (before after : Text) :
    (ofText (before ++ after)).index? (Text.size before) = some (before.count '\n') := by
  rw [index?_eq, if_pos (by simp), Text.bytes_append, ← Text.length_bytes,
    List.take_append_length, Text.count_newline_bytes]

/-- The line of a place begins with what stands behind the last line break in front of the place. -/
theorem exists_line (before after : Text) :
    ∃ line tail, (ofText (before ++ after)).lines[before.count '\n']? = some line ∧
      line.Stands (before ++ after) ∧ line.content = before.lastLine ++ tail ∧
      before.size = line.start + before.lastLine.size := by
  obtain ⟨front, split, starts⟩ := before.exists_append_lastLine
  let tail := after.takeWhile (· ≠ '\n')
  let behind := after.dropWhile (· ≠ '\n')
  have rest : after = tail ++ behind := List.takeWhile_append_dropWhile.symm
  have single : '\n' ∉ before.lastLine ++ tail := by
    refine List.not_mem_append before.newline_notMem_lastLine fun newline => ?_
    simpa using List.mem_takeWhile_imp newline
  have ends : behind = [] ∨ behind.head? = some '\n' := by
    have stopped := List.head?_dropWhile_not (· ≠ '\n') after
    cases found : behind with
    | nil => exact .inl rfl
    | cons c others =>
        change after.dropWhile (· ≠ '\n') = c :: others at found
        rw [found] at stopped
        exact .inr (by simpa using stopped)
  have whole : before ++ after = front ++ ((before.lastLine ++ tail) ++ behind) := by
    rw [rest, List.append_assoc, ← List.append_assoc front, ← split]
  have count : before.count '\n' = front.count '\n' := by
    have counted := congrArg (List.count '\n') split
    rwa [List.count_append, List.count_eq_zero.mpr before.newline_notMem_lastLine] at counted
  have listed := Line.linesFrom_getElem? single starts ends 0
  rw [← whole, ← count, Nat.zero_add] at listed
  have size := congrArg Text.size split
  rw [Text.size_append] at size
  exact ⟨_, tail, listed, ⟨front, behind, whole, rfl⟩, rfl, size⟩

end LineTable

end Bcpl
