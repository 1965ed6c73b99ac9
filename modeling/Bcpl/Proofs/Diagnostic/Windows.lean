import Bcpl.Diagnostic.Row

/-!
Windows of lines around regions, and the groups that windows are joined to. The groups keep the
regions in their order (`Group.flatMap_placed_joined`), a group shows the lines that are near one of
its regions and no others (`Group.Covers`), and between two groups a line is left out
(`Group.Apart`).
-/

namespace Bcpl

namespace Placed

/-- A line at most `context` lines away from the one a region starts on. -/
def Near (context : Nat) (placed : Placed) (index : Nat) : Prop :=
  placed.line ≤ index + context ∧ index ≤ placed.line + context

def lines (context : Nat) (placed : Placed) : Span :=
  ⟨placed.line - context, placed.line + context + 1⟩

theorem window_eq_ok_iff {context : Nat} {placed : Placed} {window : Span} :
    placed.window context = .ok window ↔
      placed.line + context + 1 ≤ maxLineNumber ∧ window = placed.lines context := by
  rw [Placed.window, lines]
  split
  · next fits => simp [fits, eq_comm]
  · next beyond => simp [beyond]

theorem near_iff_mem_lines (context : Nat) (placed : Placed) (index : Nat) :
    placed.Near context index ↔
      (placed.lines context).start ≤ index ∧ index < (placed.lines context).stop := by
  simp only [Near, lines]
  omega

theorem start_lines_le {context : Nat} {first second : Placed}
    (ordered : first.line ≤ second.line) :
    (first.lines context).start ≤ (second.lines context).start := by
  simp only [lines]
  omega

theorem near_self (context : Nat) (placed : Placed) : placed.Near context placed.line := by
  simp only [Near]
  omega

end Placed

namespace Group

variable {context : Nat}

/-- The lines of a group are those near one of its regions. -/
def Covers (context : Nat) (group : Group) : Prop :=
  ∀ index, group.lines.start ≤ index ∧ index < group.lines.stop ↔
    ∃ placed ∈ group.placed, placed.Near context index

/-- Between two groups a line is left out. -/
def Apart (first second : Group) : Prop :=
  first.lines.stop < second.lines.start

def joined (context : Nat) (placed : List Placed) : List Group :=
  ofWindows (placed.map fun each => (each, each.lines context))

theorem placed_add (group : Group) (placed : Placed) (window : Span) :
    (group.add placed window).placed = group.placed ++ [placed] := rfl

theorem flatMap_placed_join (group : Group) (windows : List (Placed × Span)) :
    (group.join windows).flatMap Group.placed = group.placed ++ windows.map Prod.fst := by
  fun_induction join group windows with
  | case1 group => simp
  | case2 group placed window rest meets ih => simp [ih, placed_add]
  | case3 group placed window rest apart ih =>
      rw [List.flatMap_cons, ih, List.map_cons]
      rfl

/-- Joining keeps the regions and their order. -/
theorem flatMap_placed_joined (context : Nat) (placed : List Placed) :
    (joined context placed).flatMap Group.placed = placed := by
  cases placed with
  | nil => rfl
  | cons first rest =>
      rw [joined, List.map_cons, ofWindows, flatMap_placed_join]
      simp [ofPlaced, Function.comp_def]

theorem placed_ne_nil_of_mem_join {group joined : Group} {windows : List (Placed × Span)}
    (filled : group.placed ≠ []) (member : joined ∈ group.join windows) : joined.placed ≠ [] := by
  fun_induction join group windows with
  | case1 group =>
      rw [List.mem_singleton.mp member]
      exact filled
  | case2 group placed window rest meets ih => exact ih (by simp [placed_add]) member
  | case3 group placed window rest apart ih =>
      rcases List.mem_cons.mp member with rfl | later
      · exact filled
      · exact ih (List.cons_ne_nil _ _) later

/-- No group is empty. -/
theorem placed_ne_nil_of_mem_joined {group : Group} {placed : List Placed}
    (member : group ∈ joined context placed) : group.placed ≠ [] := by
  cases placed with
  | nil => contradiction
  | cons first rest => exact placed_ne_nil_of_mem_join (List.cons_ne_nil _ _) member

theorem covers_ofPlaced (context : Nat) (placed : Placed) :
    (ofPlaced placed (placed.lines context)).Covers context := by
  intro index
  simp [ofPlaced, placed.near_iff_mem_lines context index]

theorem Covers.add {group : Group} {placed : Placed} (covers : group.Covers context)
    (ordered : group.lines.start ≤ (placed.lines context).start)
    (meets : (placed.lines context).start ≤ group.lines.stop) :
    (group.add placed (placed.lines context)).Covers context := by
  intro index
  have before := covers index
  have added := placed.near_iff_mem_lines context index
  have filled : (placed.lines context).start < (placed.lines context).stop := by
    simp only [Placed.lines]
    omega
  simp only [placed_add, List.mem_append, List.mem_singleton, or_and_right, exists_or,
    exists_eq_left]
  rw [← before, added]
  simp only [Group.add]
  omega

/-- Regions are joined in the order of their lines. -/
theorem covers_and_apart_of_join {group : Group} {rest : List Placed}
    (covers : group.Covers context)
    (behind : ∀ placed ∈ rest, group.lines.start ≤ (placed.lines context).start)
    (ordered : rest.Pairwise fun first second => first.line ≤ second.line) :
    (∀ joined ∈ group.join (rest.map fun each => (each, each.lines context)),
        joined.Covers context ∧ group.lines.start ≤ joined.lines.start) ∧
      (group.join (rest.map fun each => (each, each.lines context))).Pairwise Apart := by
  induction rest generalizing group with
  | nil => simpa [join] using covers
  | cons placed rest ih =>
      obtain ⟨first, others⟩ := List.forall_mem_cons.mp behind
      obtain ⟨later, ordered⟩ := List.pairwise_cons.mp ordered
      rw [List.map_cons, join]
      split
      · next meets => exact ih (covers.add first meets) others ordered
      · next apart =>
          obtain ⟨covered, pairwise⟩ := ih (covers_ofPlaced context placed)
            (fun each member => Placed.start_lines_le (later each member)) ordered
          have beyond : ∀ joined ∈ (ofPlaced placed (placed.lines context)).join
              (rest.map fun each => (each, each.lines context)), group.Apart joined := by
            intro joined member
            exact Nat.lt_of_lt_of_le (Nat.lt_of_not_le apart) (covered joined member).2
          refine ⟨List.forall_mem_cons.mpr ⟨⟨covers, Nat.le_refl _⟩, fun joined member => ?_⟩,
            List.pairwise_cons.mpr ⟨beyond, pairwise⟩⟩
          obtain ⟨covers', start⟩ := covered joined member
          exact ⟨covers', Nat.le_trans first start⟩

/-- Every group that regions are joined to shows the lines near its regions, and the groups are
apart. -/
theorem covers_and_apart_of_joined (context : Nat) {placed : List Placed}
    (ordered : placed.Pairwise fun first second => first.line ≤ second.line) :
    (∀ group ∈ joined context placed, group.Covers context) ∧
      (joined context placed).Pairwise Apart := by
  cases placed with
  | nil => simp [joined, ofWindows]
  | cons first rest =>
      obtain ⟨later, ordered⟩ := List.pairwise_cons.mp ordered
      obtain ⟨covered, pairwise⟩ := covers_and_apart_of_join (covers_ofPlaced context first)
        (fun placed member => Placed.start_lines_le (later placed member)) ordered
      exact ⟨fun group member => (covered group member).1, pairwise⟩

end Group

end Bcpl
