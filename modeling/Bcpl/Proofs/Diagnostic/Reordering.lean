import Bcpl.Proofs.Diagnostic.Rows

/-!
The order in which the regions of a message are given. A message looks the same in every order that
leaves the first regions of the sources, and the regions that start at one byte, in their order
(`Diagnostic.draw_reordered`).
-/

namespace Bcpl

/-- The same regions in another order. The sources first occur in the same order, and so do the
regions that start at one byte of a source. -/
structure Reordering (first second : List Snippet) : Prop where
  perm : first.Perm second
  sources : (first.map Snippet.source).eraseDups = (second.map Snippet.source).eraseDups
  ties : ∀ number start,
    first.filter (fun snippet => snippet.source = number ∧ snippet.span.start = start) =
      second.filter fun snippet => snippet.source = number ∧ snippet.span.start = start

/-- A list in the order of its keys is known by what it holds at each key. -/
theorem eq_of_filter_key_eq {α : Type} {key : α → Nat} {first second : List α} {bound : Nat}
    (ordered : first.Pairwise fun above below => key above ≤ key below)
    (orderedAgain : second.Pairwise fun above below => key above ≤ key below)
    (within : ∀ each ∈ first, key each < bound) (withinAgain : ∀ each ∈ second, key each < bound)
    (same : ∀ index, first.filter (key · == index) = second.filter (key · == index)) :
    first = second := by
  have bounds {list : List α} (within : ∀ each ∈ list, key each < bound) :
      ∀ each ∈ list, 0 ≤ key each ∧ key each < 0 + bound := by
    intro each member
    have below := within each member
    omega
  calc first
      = (List.range' 0 bound).flatMap fun index => first.filter (key · == index) :=
        (flatMap_filter_range' ordered (bounds within)).symm
    _ = (List.range' 0 bound).flatMap fun index => second.filter (key · == index) :=
        List.flatMap_congr fun index _ => same index
    _ = second := flatMap_filter_range' orderedAgain (bounds withinAgain)

namespace Placed

variable {table : LineTable} {first second : List Snippet}

/-- Where a region is placed depends on nothing but the region. -/
theorem filterMap_snippet_inOrder (snippets : List Snippet) :
    ((inOrder table snippets).map Placed.snippet).filterMap (place? table) =
      inOrder table snippets := by
  rw [List.filterMap_map]
  have again : ∀ placed ∈ inOrder table snippets,
      (place? table ∘ Placed.snippet) placed = some placed :=
    fun placed member => place?_eq_some_iff.mpr ⟨rfl, (mem_inOrder.mp member).2⟩
  rw [List.filterMap_congr again, List.filterMap_some]

theorem inOrder_eq_inOrder (found : ∀ snippet ∈ first, snippet.span.start ≤ table.size)
    (foundAgain : ∀ snippet ∈ second, snippet.span.start ≤ table.size)
    (same : ∀ start, first.filter (·.span.start = start) = second.filter (·.span.start = start)) :
    inOrder table first = inOrder table second := by
  have inside {snippets : List Snippet}
      (found : ∀ snippet ∈ snippets, snippet.span.start ≤ table.size) :
      ∀ snippet ∈ (inOrder table snippets).map Placed.snippet,
        snippet.span.start < table.size + 1 := by
    intro snippet member
    exact Nat.lt_succ_of_le (found snippet ((map_snippet_inOrder_perm found).mem_iff.mp member))
  have snippets : (inOrder table first).map Placed.snippet =
      (inOrder table second).map Placed.snippet := by
    refine eq_of_filter_key_eq (pairwise_start table first) (pairwise_start table second)
      (inside found) (inside foundAgain) fun start => ?_
    calc ((inOrder table first).map Placed.snippet).filter (·.span.start = start)
        = first.filter (·.span.start = start) := filter_start_inOrder found start
      _ = second.filter (·.span.start = start) := same start
      _ = ((inOrder table second).map Placed.snippet).filter (·.span.start = start) :=
          (filter_start_inOrder foundAgain start).symm
  rw [← filterMap_snippet_inOrder first, snippets, filterMap_snippet_inOrder]

end Placed

/-- The rows of a text depend on the order of its regions only where they start at one byte. -/
theorem Source.rows_reordered {source : Source} {first second : List Snippet}
    (found : ∀ snippet ∈ first, snippet.span.start ≤ source.lines.size)
    (foundAgain : ∀ snippet ∈ second, snippet.span.start ≤ source.lines.size)
    (same : ∀ start, first.filter (·.span.start = start) = second.filter (·.span.start = start))
    (config : Config) : source.rows config first = source.rows config second := by
  have placed : (first.filterMap (Placed.place? source.lines)).mergeSort Placed.precedes =
      (second.filterMap (Placed.place? source.lines)).mergeSort Placed.precedes :=
    Placed.inOrder_eq_inOrder found foundAgain same
  simp only [rows, placed]

namespace Diagnostic

variable {first second : Diagnostic} {sources : Nat → Option Source}

theorem rows_reordered (severity : first.severity = second.severity)
    (message : first.message = second.message)
    (reordering : Reordering (first.drawable sources) (second.drawable sources))
    (config : Config) : first.rows config sources = second.rows config sources := by
  rw [rows, rows, ← reordering.sources, severity, message]
  refine congrArg (· >>= _) (mapM_congr_left fun number listed => ?_)
  have numbered := List.mem_eraseDups.mp listed
  obtain ⟨source, known, found⟩ := exists_source_of_mem numbered
  obtain ⟨_, known', foundAgain⟩ := exists_source_of_mem
    ((reordering.perm.map Snippet.source).mem_iff.mp numbered)
  cases known.symm.trans known'
  rw [known]
  refine Source.rows_reordered found foundAgain (fun start => ?_) config
  have ties := reordering.ties number start
  simp only [Bool.decide_and, ← List.filter_filter] at ties
  rw [List.filter_comm, List.filter_comm (l := second.drawable sources)]
  exact ties

/-- What a message looks like depends on the order of its regions only where they start at one
byte, and in which of its sources occurs first. Regions that cannot be found are not drawn. -/
theorem draw_reordered (severity : first.severity = second.severity)
    (message : first.message = second.message)
    (reordering : Reordering (first.drawable sources) (second.drawable sources))
    (config : Config) (color : Bool) :
    first.draw config sources color = second.draw config sources color := by
  rw [draw_eq_map_rows, draw_eq_map_rows, rows_reordered severity message reordering, severity]

/-- Regions of two texts in another order, each time with one that cannot be found. -/
theorem draw_reordered_regions :
    let main := Source.inline "main.b".toList "x\ny\n\nz".toList
    let library := Source.inline "lib.b".toList "w".toList
    let sources (number : Nat) := [main, library][number]?
    let above : Snippet := ⟨.primary, "above".toList, 0, ⟨0, 1⟩⟩
    let below : Snippet := ⟨.secondary, "below".toList, 0, ⟨5, 6⟩⟩
    let apart : Snippet := ⟨.secondary, "apart".toList, 1, ⟨0, 1⟩⟩
    let unknown : Snippet := ⟨.primary, "unknown".toList, 9, ⟨0, 1⟩⟩
    let beyond : Snippet := ⟨.primary, "beyond".toList, 1, ⟨2, 3⟩⟩
    let first : Diagnostic := ⟨.error, none, [below, unknown, apart, above]⟩
    let second : Diagnostic := ⟨.error, none, [above, below, beyond, apart]⟩
    Reordering (first.drawable sources) (second.drawable sources) ∧
      ∀ config color, first.draw config sources color = second.draw config sources color := by
  intro main library sources above below apart unknown beyond first second
  have drawable : first.drawable sources = [below, apart, above] := by decide +kernel
  have drawableAgain : second.drawable sources = [above, below, apart] := by decide +kernel
  have reordering : Reordering (first.drawable sources) (second.drawable sources) := by
    rw [drawable, drawableAgain]
    refine ⟨by decide, by decide, fun number start => ?_⟩
    by_cases own : number = 0
    · by_cases early : start = 0
      · simp [above, below, apart, own, early]
      · simp [above, below, apart, own, Ne.symm early, List.filter_cons]
    · simp [above, below, apart, Ne.symm own, List.filter_cons]
  exact ⟨reordering, draw_reordered rfl rfl reordering⟩

end Diagnostic

end Bcpl
