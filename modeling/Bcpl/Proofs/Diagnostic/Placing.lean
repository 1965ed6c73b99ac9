import Mathlib.Data.List.Pairwise
import Bcpl.Diagnostic.Row
import Bcpl.Proofs.Source.LineTable

/-!
The order in which the regions of a text are drawn: that of the bytes where they start, and where
they start at one byte, that in which they were given.
-/

namespace Bcpl.Placed

/-- The regions that are found in a text, in the order in which they are drawn. -/
def inOrder (table : LineTable) (snippets : List Snippet) : List Placed :=
  (snippets.filterMap (place? table)).mergeSort precedes

theorem precedes_iff {first second : Placed} :
    first.precedes second = true ↔ first.line < second.line ∨
      first.line = second.line ∧ first.snippet.span.start ≤ second.snippet.span.start := by
  simp [precedes]

theorem precedes_trans (first second third : Placed) (before : first.precedes second = true)
    (behind : second.precedes third = true) : first.precedes third = true := by
  rw [precedes_iff] at before behind ⊢
  omega

theorem precedes_total (first second : Placed) :
    (first.precedes second || second.precedes first) = true := by
  rw [Bool.or_eq_true, precedes_iff, precedes_iff]
  omega

theorem place?_eq_some_iff {table : LineTable} {snippet : Snippet} {placed : Placed} :
    place? table snippet = some placed ↔
      placed.snippet = snippet ∧ table.index? placed.snippet.span.start = some placed.line := by
  obtain ⟨of, line⟩ := placed
  rw [place?, Option.map_eq_some_iff]
  constructor
  · rintro ⟨index, found, same⟩
    cases same
    exact ⟨rfl, found⟩
  · rintro ⟨rfl, found⟩
    exact ⟨line, found, rfl⟩

variable {table : LineTable} {snippets : List Snippet}

theorem mem_inOrder {placed : Placed} :
    placed ∈ inOrder table snippets ↔
      placed.snippet ∈ snippets ∧ table.index? placed.snippet.span.start = some placed.line := by
  simp only [inOrder, List.mem_mergeSort, List.mem_filterMap, place?_eq_some_iff]
  constructor
  · rintro ⟨snippet, member, rfl, found⟩
    exact ⟨member, found⟩
  · rintro ⟨member, found⟩
    exact ⟨placed.snippet, member, rfl, found⟩

variable (table snippets) in
theorem pairwise_precedes : (inOrder table snippets).Pairwise fun first second =>
    first.precedes second = true :=
  List.pairwise_mergeSort precedes_trans precedes_total _

variable (table snippets) in
theorem pairwise_line : (inOrder table snippets).Pairwise fun first second =>
    first.line ≤ second.line := by
  refine (pairwise_precedes table snippets).imp fun before => ?_
  rw [precedes_iff] at before
  omega

variable (table snippets) in
theorem pairwise_start : ((inOrder table snippets).map Placed.snippet).Pairwise
    fun first second => first.span.start ≤ second.span.start := by
  rw [List.pairwise_map]
  refine (pairwise_precedes table snippets).imp_of_mem ?_
  intro first second firstIn secondIn before
  have monotone : second.snippet.span.start ≤ first.snippet.span.start →
      second.line ≤ first.line :=
    fun later => LineTable.index?_mono later (mem_inOrder.mp secondIn).2 (mem_inOrder.mp firstIn).2
  rw [precedes_iff] at before
  omega

theorem map_snippet_filterMap (found : ∀ snippet ∈ snippets, snippet.span.start ≤ table.size) :
    (snippets.filterMap (place? table)).map Placed.snippet = snippets := by
  induction snippets with
  | nil => rfl
  | cons snippet rest ih =>
      obtain ⟨first, others⟩ := List.forall_mem_cons.mp found
      rw [List.filterMap_cons, place?, LineTable.index?_eq_ite, if_pos first]
      simp only [Option.map_some, List.map_cons, ih others]

section Found

variable (found : ∀ snippet ∈ snippets, snippet.span.start ≤ table.size)
include found

theorem map_snippet_inOrder_perm :
    ((inOrder table snippets).map Placed.snippet).Perm snippets := by
  have sorted := (List.mergeSort_perm (snippets.filterMap (place? table)) precedes).map
    Placed.snippet
  rwa [map_snippet_filterMap found] at sorted

/-- Regions that start at one byte keep their order. -/
theorem filter_start_inOrder (start : Nat) :
    ((inOrder table snippets).map Placed.snippet).filter (·.span.start = start) =
      snippets.filter (·.span.start = start) := by
  let here (placed : Placed) : Bool := placed.snippet.span.start = start
  let given := snippets.filterMap (place? table)
  have level : (given.filter here).Pairwise fun first second => first.precedes second = true := by
    refine List.pairwise_of_forall_mem_list fun first firstIn second secondIn => ?_
    obtain ⟨firstGiven, firstHere⟩ := List.mem_filter.mp firstIn
    obtain ⟨secondGiven, secondHere⟩ := List.mem_filter.mp secondIn
    have firstStart := of_decide_eq_true firstHere
    have secondStart := of_decide_eq_true secondHere
    have firstAt := (mem_inOrder.mp (List.mem_mergeSort.mpr firstGiven)).2
    have secondAt := (mem_inOrder.mp (List.mem_mergeSort.mpr secondGiven)).2
    rw [firstStart] at firstAt
    rw [secondStart, firstAt] at secondAt
    exact precedes_iff.mpr (.inr ⟨Option.some.inj secondAt, by omega⟩)
  have kept : (given.filter here).Sublist (inOrder table snippets) :=
    List.sublist_mergeSort precedes_trans precedes_total level List.filter_sublist
  have same : given.filter here = (inOrder table snippets).filter here := by
    have within := kept.filter here
    rw [List.filter_filter] at within
    simp only [Bool.and_self] at within
    exact within.eq_of_length
      ((List.mergeSort_perm given precedes).filter here).length_eq.symm
  have filtered (list : List Placed) : (list.map Placed.snippet).filter (·.span.start = start) =
      (list.filter here).map Placed.snippet := List.filter_map
  rw [filtered, ← same, ← filtered, map_snippet_filterMap found]

end Found

end Bcpl.Placed
