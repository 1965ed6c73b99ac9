import Bcpl.Proofs.Source.Coordinates
import Bcpl.Proofs.Text.LineEndings

/-!
The lines of a text as they are shown. Each is cut out of the text between its start and the line
break behind it (`line?_eq_slice?`), and joined by line breaks they are the text again, up to one
carriage return at the end of each (`LineTable.lines_joined`).
-/

namespace Bcpl

theorem Line.map_content_placedFrom (start : Nat) (contents : List Text) :
    (placedFrom start contents).map content = contents := by
  induction contents generalizing start with
  | nil => rfl
  | cons content rest ih => rw [placedFrom, List.map_cons, ih]

namespace LineTable

/-- The byte where a line ends, in front of its line break or at the end of the text. -/
def stop (table : LineTable) (index : Nat) : Nat :=
  ((table.start? (index + 1)).map (· - 1)).getD table.size

variable {text : Text} {line : Line} {index : Nat}

theorem stop_eq (found : (ofText text).lines[index]? = some line) :
    (ofText text).stop index = line.start + line.content.size := by
  obtain ⟨before, after, rfl, size, count, single, ends⟩ := exists_append_of_lines found
  rcases ends with rfl | newline
  · have last : (ofText (before ++ (line.content ++ []))).start? (index + 1) = none := by
      rw [← Option.not_isSome_iff_eq_none, isSome_start?_iff, count_ofText]
      simp [count, List.count_eq_zero.mpr single]
    rw [stop, last, ← size]
    simp [LineTable.size, ofText]
  · obtain ⟨rest, rfl⟩ := List.head?_eq_some_iff.mp newline
    have own : (before ++ line.content).count '\n' = index := by
      rw [List.count_append, count, List.count_eq_zero.mpr single, Nat.add_zero]
    have found := index?_append (before ++ line.content) ('\n' :: rest)
    have feed : (Text.bytes (before ++ line.content ++ '\n' :: rest))[
        (before ++ line.content).size]? = some 0x0a := by
      rw [Text.bytes_append, ← Text.length_bytes, List.getElem?_append_right (Nat.le_refl _),
        Nat.sub_self]
      rfl
    rw [own] at found
    rw [← List.append_assoc, stop, start?_of_newline feed found, ← size, Text.size_append]
    rfl

theorem slice?_stop {table : LineTable} (found : table.lines[index]? = some line) :
    table.text.slice? line.start (table.stop index) = some line.content := by
  obtain ⟨text, breaks, rfl⟩ := table
  have stop : (ofText text).stop index = line.start + line.content.size := stop_eq found
  have cut : text.slice? line.start (line.start + line.content.size) = some line.content :=
    slice?_of_mem (List.mem_of_getElem? found)
  rwa [← stop] at cut

theorem getD_breaks_eq_stop (table : LineTable) (index : Nat) :
    table.breaks[index]?.getD table.size = table.stop index := by
  rw [stop, start?, findStart_succ]
  cases table.breaks[index]? <;> rfl

/-- Every line can be cut out of the text between its line breaks. -/
theorem findLine_eq (table : LineTable) (index : Nat) :
    table.findLine index = .ok table.lines[index]? := by
  rw [findLine, findStart_eq, getD_breaks_eq_stop]
  cases found : table.lines[index]? with
  | none => rfl
  | some line =>
      change (Checked.slice table.text line.start (table.stop index) >>= _) = _
      rw [Checked.slice_eq_ok (slice?_stop found)]
      rfl

theorem line?_eq (table : LineTable) (index : Nat) :
    table.line? index = table.lines[index]?.map Line.shown := by
  rw [line?, findLine_eq]
  rfl

/-- A line is what stands between its start and its end, without a carriage return there. -/
theorem line?_eq_slice? (text : Text) (index : Nat) :
    (ofText text).line? index = ((ofText text).start? index).bind fun start =>
      (text.slice? start ((ofText text).stop index)).map Text.chomp := by
  rw [line?_eq, start?_eq]
  cases found : (ofText text).lines[index]? with
  | none => rfl
  | some line =>
      rw [Option.map_some, Option.map_some, Option.bind_some, stop_eq found,
        slice?_of_mem (List.mem_of_getElem? found)]
      rfl

/-- The lines of a text make it up. There is one for each number below their count, cut out of the
text where it stands, and none holds a line break; joined by line breaks, they are the text without
the one carriage return directly in front of a line break, wherever there is one, and without one at
the very end. -/
theorem lines_joined (text : Text) :
    let table := ofText text
    (∀ index, (table.line? index).isSome ↔ index < table.count) ∧
      (∀ index, table.line? index = (table.start? index).bind fun start =>
        (text.slice? start (table.stop index)).map Text.chomp) ∧
      ∃ lines : List Text, lines.length = table.count ∧
        (∀ index, table.line? index = lines[index]?) ∧ (∀ line ∈ lines, '\n' ∉ line) ∧
        ['\n'].intercalate lines = text.dropReturns.chomp := by
  intro table
  have contents : table.lines.map Line.content = text.splitOn '\n' :=
    Line.map_content_placedFrom 0 _
  have single : ∀ content ∈ text.splitOn '\n', '\n' ∉ content := by
    intro content member
    rw [← contents] at member
    obtain ⟨line, listed, rfl⟩ := List.mem_map.mp member
    obtain ⟨index, found⟩ := List.getElem?_of_mem listed
    obtain ⟨_, _, _, _, _, single, _⟩ := exists_append_of_lines found
    exact single
  have shown : table.lines.map Line.shown = (text.splitOn '\n').map Text.chomp := by
    rw [← contents, List.map_map]
    rfl
  refine ⟨fun index => by simp [line?_eq, count_eq_length], line?_eq_slice? text,
    table.lines.map Line.shown, by rw [List.length_map, count_eq_length],
    fun index => by rw [line?_eq, List.getElem?_map], ?_, ?_⟩
  · rw [shown]
    intro line member
    obtain ⟨content, listed, rfl⟩ := List.mem_map.mp member
    exact fun inside => single content listed (content.chomp_subset inside)
  · rw [shown, Text.intercalate_chomp (Text.splitOn_ne_nil '\n' text) single,
      Text.intercalate_splitOn]

/-- Of two carriage returns in front of a line break, one stays. -/
example :
    let table := LineTable.ofText "let X = 1\r\r\nand Y = 2\r".toList
    (List.range 3).map table.line? =
      [some "let X = 1\r".toList, some "and Y = 2".toList, none] := by
  decide +kernel

end LineTable

end Bcpl
