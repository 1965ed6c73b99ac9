import Bcpl.Proofs.Diagnostic.Drawn

/-!
What a drawn message shows (`draw_shows_regions`).
-/

namespace Bcpl

section FirstOccurrences

variable {α : Type} [BEq α] [LawfulBEq α]

end FirstOccurrences

theorem Snippet.isDrawable_iff {snippet : Snippet} {sources : Nat → Option Source} :
    snippet.isDrawable sources = true ↔ ∃ source, sources snippet.source = some source ∧
      snippet.span.start ≤ source.lines.size := by
  rw [isDrawable, Option.any_eq_true]
  simp [LineTable.size, Source.lines, LineTable.ofText]

namespace Diagnostic

variable {diagnostic : Diagnostic} {config : Config} {sources : Nat → Option Source}

theorem exists_source_of_mem {number : Nat}
    (member : number ∈ (diagnostic.drawable sources).map Snippet.source) :
    ∃ source, sources number = some source ∧
      ∀ snippet ∈ (diagnostic.drawable sources).filter (·.source == number),
        snippet.span.start ≤ source.lines.size := by
  obtain ⟨snippet, drawable, rfl⟩ := List.mem_map.mp member
  obtain ⟨source, known, _⟩ := Snippet.isDrawable_iff.mp (List.mem_filter.mp drawable).2
  refine ⟨source, known, fun other listed => ?_⟩
  obtain ⟨drawable, same⟩ := List.mem_filter.mp listed
  obtain ⟨found, known', inside⟩ := Snippet.isDrawable_iff.mp (List.mem_filter.mp drawable).2
  rw [eq_of_beq same, known] at known'
  cases known'
  exact inside

end Diagnostic

end Bcpl
