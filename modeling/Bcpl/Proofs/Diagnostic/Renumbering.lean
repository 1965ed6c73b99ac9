import Mathlib.Logic.Function.Basic
import Bcpl.Diagnostic.Drawing
import Bcpl.Proofs.Diagnostic.Placing
import Bcpl.Proofs.Results

/-!
The numbers of sources are not drawn. A message looks the same in another session where its sources
have other numbers, whatever else that session holds (`Diagnostic.draw_renumber`).
-/

namespace Bcpl

theorem eraseDups_map {α β : Type} [BEq α] [LawfulBEq α] [BEq β] [LawfulBEq β] {change : α → β}
    (injective : Function.Injective change) (list : List α) :
    (list.map change).eraseDups = list.eraseDups.map change := by
  match list with
  | [] => rfl
  | head :: rest =>
      have shorter := List.length_filter_le (fun each => !each == head) rest
      have kept : (rest.map change).filter (fun each => !each == change head) =
          (rest.filter fun each => !each == head).map change := by
        rw [List.filter_map]
        refine congrArg _ (List.filter_congr fun each _ => ?_)
        exact congrArg not (by simp only [beq_eq_beq, injective.eq_iff])
      rw [List.map_cons, List.eraseDups_cons, List.eraseDups_cons, List.map_cons, kept,
        eraseDups_map injective]
termination_by list.length

variable (number : Nat → Nat)

def Snippet.renumber (snippet : Snippet) : Snippet :=
  { snippet with source := number snippet.source }

def Placed.renumber (placed : Placed) : Placed := ⟨placed.snippet.renumber number, placed.line⟩

def Group.renumber (group : Group) : Group :=
  ⟨group.placed.map (Placed.renumber number), group.lines⟩

/-- A message on the same texts under other numbers. -/
def Diagnostic.renumber (diagnostic : Diagnostic) : Diagnostic :=
  { diagnostic with snippets := diagnostic.snippets.map (Snippet.renumber number) }

theorem Diagnostic.renumber_id (diagnostic : Diagnostic) : diagnostic.renumber id = diagnostic := by
  simp [renumber, show Snippet.renumber id = id from rfl]

section Groups

variable {table : LineTable}

theorem Placed.inOrder_renumber (snippets : List Snippet) :
    inOrder table (snippets.map (Snippet.renumber number)) =
      (inOrder table snippets).map (renumber number) := by
  have placed : (snippets.map (Snippet.renumber number)).filterMap (place? table) =
      (snippets.filterMap (place? table)).map (renumber number) := by
    rw [List.map_filterMap, List.filterMap_map]
    refine List.filterMap_congr fun snippet _ => ?_
    simp only [Function.comp_apply, place?, Option.map_map]
    rfl
  rw [inOrder, placed, inOrder, List.map_mergeSort (s := precedes)]
  exact fun _ _ _ _ => rfl

theorem Group.join_renumber (group : Group) (rest : List (Placed × Span)) :
    (group.renumber number).join (rest.map (Prod.map (Placed.renumber number) id)) =
      (group.join rest).map (renumber number) := by
  induction rest generalizing group with
  | nil => rfl
  | cons next rest ih =>
      obtain ⟨placed, window⟩ := next
      have added : (group.renumber number).add (placed.renumber number) window =
          (group.add placed window).renumber number := by
        simp [renumber, add]
      have apart : (ofPlaced (placed.renumber number) window).join
          (rest.map (Prod.map (Placed.renumber number) id)) =
            ((ofPlaced placed window).join rest).map (renumber number) :=
        ih (ofPlaced placed window)
      rw [List.map_cons, Prod.map_apply, id_eq, join, join, added, ih, apart, ← List.map_cons,
        ← apply_ite (List.map (renumber number))]
      rfl

theorem Group.ofWindows_renumber (list : List (Placed × Span)) :
    ofWindows (list.map (Prod.map (Placed.renumber number) id)) =
      (ofWindows list).map (renumber number) := by
  cases list with
  | nil => rfl
  | cons first rest => exact join_renumber number (ofPlaced first.1 first.2) rest

theorem Group.lineRows_renumber (group : Group) (width index : Nat) (line : Line) :
    (group.renumber number).lineRows table width index line =
      group.lineRows table width index line := by
  simp only [lineRows, renumber, List.filter_map, List.mapM_map]
  rfl

theorem Group.linesRows_renumber (group : Group) (width : Nat) (indices : List Nat) :
    (group.renumber number).linesRows table width indices =
      group.linesRows table width indices := by
  induction indices with
  | nil => rfl
  | cons index rest ih => simp only [linesRows, lineRows_renumber, ih]

theorem Group.location_renumber (group : Group) (source : Source) :
    (group.renumber number).location source table = group.location source table := by
  obtain ⟨placed, lines⟩ := group
  cases placed <;> rfl

theorem Group.rows_renumber (group : Group) (source : Source) :
    (group.renumber number).rows source table = group.rows source table := by
  rw [rows, rows]
  simp only [linesRows_renumber, location_renumber]
  rfl

end Groups

theorem Source.rows_renumber (source : Source) (config : Config) (snippets : List Snippet) :
    source.rows config (snippets.map (Snippet.renumber number)) = source.rows config snippets := by
  have placed : ((snippets.map (Snippet.renumber number)).filterMap
      (Placed.place? source.lines)).mergeSort Placed.precedes =
        ((snippets.filterMap (Placed.place? source.lines)).mergeSort Placed.precedes).map
          (Placed.renumber number) := Placed.inOrder_renumber number snippets
  have windows (list : List Placed) :
      (list.map (Placed.renumber number)).mapM (Placed.window config.context) =
        list.mapM (Placed.window config.context) := by
    rw [List.mapM_map]
    rfl
  simp only [rows, placed, windows, List.zip_map_left, Group.ofWindows_renumber, List.mapM_map,
    Function.comp_def, Group.rows_renumber]

variable {number}

theorem Diagnostic.drawable_renumber {diagnostic : Diagnostic}
    {sources others : Nat → Option Source} (same : ∀ snippet ∈ diagnostic.snippets,
      others (number snippet.source) = sources snippet.source) :
    (diagnostic.renumber number).drawable others =
      (diagnostic.drawable sources).map (Snippet.renumber number) := by
  rw [drawable, renumber, List.filter_map, drawable]
  refine congrArg _ (List.filter_congr fun snippet member => ?_)
  exact congrArg (Option.any fun source => snippet.span.start ≤ Text.size source.text)
    (same snippet member)

/-- The drawing depends on the texts of the snippets, not on their numbers. -/
theorem Diagnostic.draw_renumber {diagnostic : Diagnostic} {sources others : Nat → Option Source}
    (injective : Function.Injective number)
    (same : ∀ snippet ∈ diagnostic.snippets,
      others (number snippet.source) = sources snippet.source) (config : Config) (color : Bool) :
    (diagnostic.renumber number).draw config others color =
      diagnostic.draw config sources color := by
  have numbers : ((diagnostic.drawable sources).map (Snippet.renumber number)).map Snippet.source =
      ((diagnostic.drawable sources).map Snippet.source).map number := by
    rw [List.map_map, List.map_map]
    rfl
  have rows : (diagnostic.renumber number).rows config others = diagnostic.rows config sources := by
    rw [Diagnostic.rows, drawable_renumber same, numbers, eraseDups_map injective, List.mapM_map,
      Diagnostic.rows]
    refine congrArg (· >>= _) (mapM_congr_left fun each listed => ?_)
    obtain ⟨snippet, member, rfl⟩ := List.mem_map.mp (List.mem_eraseDups.mp listed)
    have own : ((diagnostic.drawable sources).map (Snippet.renumber number)).filter
        (·.source == number snippet.source) =
          ((diagnostic.drawable sources).filter (·.source == snippet.source)).map
            (Snippet.renumber number) := by
      rw [List.filter_map]
      refine congrArg _ (List.filter_congr fun other _ => ?_)
      simp only [Function.comp_apply, Snippet.renumber, beq_eq_beq, injective.eq_iff]
    simp only [Function.comp_apply, same snippet (List.mem_of_mem_filter member), own,
      Source.rows_renumber]
  rw [draw, pieces, rows]
  rfl

end Bcpl
