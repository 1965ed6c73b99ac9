import Bcpl.Proofs.Diagnostic.Drawn

/-!
Messages about one region. They are drawn as one group, and one line of it is underlined.
-/

namespace Bcpl

section SingleRegion

variable {source : Source} {config : Config} {snippet : Snippet} {line : Nat}

/-- One region makes one group. -/
theorem Source.rows_singleton (found : source.lines.index? snippet.span.start = some line)
    (fits : line + config.context + 1 ≤ maxLineNumber) :
    source.rows config [snippet] = (Group.ofPlaced ⟨snippet, line⟩
      (Placed.lines config.context ⟨snippet, line⟩)).rows source source.lines := by
  have placed : [snippet].filterMap (Placed.place? source.lines) = [⟨snippet, line⟩] := by
    simp [Placed.place?, found]
  have window : Placed.window config.context ⟨snippet, line⟩ =
      .ok (Placed.lines config.context ⟨snippet, line⟩) :=
    Placed.window_eq_ok_iff.mpr ⟨fits, rfl⟩
  rw [Source.rows, placed, List.mergeSort_singleton, List.mapM_cons, window]
  simp only [List.mapM_nil, bind, Except.bind, pure, Except.pure, List.zip_cons_cons,
    List.zip_nil_left, Group.ofWindows, Group.join, List.mapM_cons]
  cases (Group.ofPlaced ⟨snippet, line⟩ (Placed.lines config.context ⟨snippet, line⟩)).rows source
      source.lines with
  | error fault => rfl
  | ok rows => exact congrArg Except.ok (List.append_nil rows)

variable {severity : Severity} {message : Option Text} {sources : Nat → Option Source}

theorem Diagnostic.rows_singleton (known : sources snippet.source = some source)
    (found : source.lines.index? snippet.span.start = some line) :
    Diagnostic.rows ⟨severity, message, [snippet]⟩ config sources =
      (source.rows config [snippet]).map (.header severity message :: ·) := by
  have inside : snippet.span.start ≤ source.lines.size :=
    (LineTable.index?_eq_some_iff.mp found).1
  have drawable : [snippet].filter (·.isDrawable sources) = [snippet] := by
    simp [Snippet.isDrawable, known, show snippet.span.start ≤ source.text.size from inside]
  have same : [snippet].filter (·.source == snippet.source) = [snippet] := by simp
  rw [Diagnostic.rows, Diagnostic.drawable, drawable]
  simp only [List.map_cons, List.map_nil, List.eraseDups_cons, List.filter_nil, List.mapM_cons,
    known, same]
  cases source.rows config [snippet] with
  | error fault => rfl
  | ok rows =>
      exact congrArg (fun rest => Except.ok (Row.header severity message :: rest))
        (List.append_nil rows)

end SingleRegion

/-- The rows of a line, given by its number, where the line `marked` is underlined. -/
def markedRows (table : LineTable) (width marked : Nat) (mark : Underline) (number : Nat) :
    List Row :=
  .source width number (expandTabs ((table.line? (number - 1)).getD [])) ::
    if number = marked then [.underline width mark] else []

namespace Group

variable {group : Group} {placed : Placed} {table : LineTable} {line : Line} {width index : Nat}
  (alone : group.placed = [placed])
include alone

theorem rowsAt_of_other (listed : table.lines[index]? = some line) (other : index ≠ placed.line) :
    group.rowsAt table width index =
      .ok [.source width (index + 1) (expandTabs line.shown)] := by
  have none : group.placed.filter (·.line == index) = [] := by
    simp [alone, other.symm]
  rw [group.rowsAt_of_line width listed, lineRows, none]
  rfl

theorem rowsAt_of_own (listed : table.lines[placed.line]? = some line) :
    group.rowsAt table width placed.line = (placed.underline table line).map fun mark =>
      [.source width (placed.line + 1) (expandTabs line.shown), .underline width mark] := by
  have own : group.placed.filter (·.line == placed.line) = [placed] := by
    simp [alone]
  rw [group.rowsAt_of_line width listed, lineRows, own, List.mapM_cons]
  cases placed.underline table line <;> rfl

section Own

variable (own : table.lines[placed.line]? = some line) (source : Source) {column : Nat}
include own

theorem rowsAt_eq_markedRows {mark : Underline} (inside : index < table.count)
    (underlined : placed.underline table line = .ok mark) :
    group.rowsAt table width index =
      .ok (markedRows table width (placed.line + 1) mark (index + 1)) := by
  rw [LineTable.count_eq_length] at inside
  have listed : table.lines[index]? = some table.lines[index] := List.getElem?_eq_getElem inside
  by_cases here : index = placed.line
  · subst here
    rw [rowsAt_of_own alone own, underlined, markedRows, if_pos rfl, Nat.add_sub_cancel,
      LineTable.line?_eq, own]
    rfl
  · have other : index + 1 ≠ placed.line + 1 := by omega
    rw [rowsAt_of_other alone listed here, markedRows, if_neg other, Nat.add_sub_cancel,
      LineTable.line?_eq, listed]
    rfl

variable (located : table.position? placed.snippet.span.start = some (placed.line + 1, column))
include located

theorem rows_of_underline {mark : Underline}
    (underlined : placed.underline table line = .ok mark) :
    group.rows source table =
      .ok (.location source.name source.path (placed.line + 1) column ::
        (List.range' (group.lines.start + 1) (group.stop table - group.lines.start)).flatMap
          (markedRows table (group.width table) (placed.line + 1) mark) ++ [.blank]) := by
  have each : (group.shown table).mapM (group.rowsAt table (group.width table)) =
      .ok ((group.shown table).map fun index =>
        markedRows table (group.width table) (placed.line + 1) mark (index + 1)) :=
    mapM_eq_ok_map fun index member =>
      rowsAt_eq_markedRows alone own (mem_shown.mp member).2 underlined
  rw [Nat.add_comm group.lines.start, ← List.map_add_range', List.flatMap_map, List.flatMap_def]
  simp only [Nat.add_comm 1]
  rw [rows_eq_bind, location_of_position alone source located, each]
  rfl

theorem rows_of_fault {fault : Fault} (inside : placed.line ∈ group.shown table)
    (failed : placed.underline table line = .error fault) :
    group.rows source table = .error fault := by
  have drawn : (group.shown table).mapM (group.rowsAt table (group.width table)) =
      .error fault := by
    refine mapM_eq_error (fun index member other fails => ?_) inside ?_
    · have within := (mem_shown.mp member).2
      rw [LineTable.count_eq_length] at within
      have listed := List.getElem?_eq_getElem within
      by_cases here : index = placed.line
      · subst here
        rw [rowsAt_of_own alone own, failed] at fails
        cases fails
        rfl
      · rw [rowsAt_of_other alone listed here] at fails
        contradiction
    · rw [rowsAt_of_own alone own, failed]
      rfl
  rw [rows_eq_bind, location_of_position alone source located, drawn]
  rfl

end Own

end Group

end Bcpl
