import Mathlib.Data.List.Forall2

/-!
Computations that may fail, taken apart where they did not.
-/

namespace Bcpl

theorem bind_eq_ok_iff {ε α β : Type} {first : Except ε α} {next : α → Except ε β} {result : β} :
    (first >>= next) = .ok result ↔ ∃ value, first = .ok value ∧ next value = .ok result := by
  cases first <;> simp [bind, Except.bind]

theorem bind_eq_error_iff {ε α β : Type} {first : Except ε α} {next : α → Except ε β} {error : ε} :
    (first >>= next) = .error error ↔
      first = .error error ∨ ∃ value, first = .ok value ∧ next value = .error error := by
  cases first <;> simp [bind, Except.bind]

section Folds

variable {ε α β : Type} {step : β → α → Except ε β} {start result : β} {input : α}
  {rest front back : List α}

theorem foldlM_cons_eq_ok_iff : (input :: rest).foldlM step start = .ok result ↔
    ∃ next, step start input = .ok next ∧ rest.foldlM step next = .ok result := by
  rw [List.foldlM_cons, bind_eq_ok_iff]

theorem foldlM_append_eq_ok_iff : (front ++ back).foldlM step start = .ok result ↔
    ∃ middle, front.foldlM step start = .ok middle ∧ back.foldlM step middle = .ok result := by
  rw [List.foldlM_append, bind_eq_ok_iff]

theorem foldlM_concat_eq_ok_iff : (front ++ [input]).foldlM step start = .ok result ↔
    ∃ middle, front.foldlM step start = .ok middle ∧ step middle input = .ok result := by
  have single (middle : β) : [input].foldlM step middle = step middle input := by simp
  simp only [foldlM_append_eq_ok_iff, single]

end Folds

theorem mapM_cons_eq_ok_iff {ε α β : Type} {step : α → Except ε β} {input : α} {rest : List α}
    {results : List β} :
    (input :: rest).mapM step = .ok results ↔ ∃ result others, step input = .ok result ∧
      rest.mapM step = .ok others ∧ results = result :: others := by
  rw [List.mapM_cons, bind_eq_ok_iff]
  constructor
  · rintro ⟨result, first, traversed⟩
    obtain ⟨others, behind, traversed⟩ := bind_eq_ok_iff.mp traversed
    cases traversed
    exact ⟨result, others, first, behind, rfl⟩
  · rintro ⟨result, others, first, behind, rfl⟩
    exact ⟨result, first, bind_eq_ok_iff.mpr ⟨others, behind, rfl⟩⟩

theorem mapM_eq_ok_map {ε α β : Type} {step : α → Except ε β} {inputs : List α} {result : α → β}
    (each : ∀ input ∈ inputs, step input = .ok (result input)) :
    inputs.mapM step = .ok (inputs.map result) := by
  induction inputs with
  | nil => rfl
  | cons input rest ih =>
      obtain ⟨first, others⟩ := List.forall_mem_cons.mp each
      exact mapM_cons_eq_ok_iff.mpr ⟨_, _, first, ih others, rfl⟩

theorem mapM_congr_left {ε α β : Type} {first second : α → Except ε β} {inputs : List α}
    (same : ∀ input ∈ inputs, first input = second input) :
    inputs.mapM first = inputs.mapM second := by
  induction inputs with
  | nil => rfl
  | cons input rest ih =>
      obtain ⟨here, behind⟩ := List.forall_mem_cons.mp same
      rw [List.mapM_cons, List.mapM_cons, here, ih behind]

/-- A traversal fails with the one error there is in it. -/
theorem mapM_eq_error {ε α β : Type} {step : α → Except ε β} {inputs : List α} {error : ε}
    (each : ∀ input ∈ inputs, ∀ other, step input = .error other → other = error) {failing : α}
    (listed : failing ∈ inputs) (fails : step failing = .error error) :
    inputs.mapM step = .error error := by
  induction inputs with
  | nil => contradiction
  | cons input rest ih =>
      obtain ⟨onlyFirst, others⟩ := List.forall_mem_cons.mp each
      rw [List.mapM_cons]
      cases first : step input with
      | error other =>
          rw [onlyFirst other first]
          rfl
      | ok result =>
          rcases List.mem_cons.mp listed with rfl | later
          · rw [first] at fails
            contradiction
          · rw [ih others later]
            rfl

/-- A traversal that fails does so at one of its inputs. -/
theorem exists_of_mapM_eq_error {ε α β : Type} {step : α → Except ε β} {inputs : List α} {error : ε}
    (failed : inputs.mapM step = .error error) : ∃ input ∈ inputs, step input = .error error := by
  induction inputs with
  | nil => contradiction
  | cons input rest ih =>
      rw [List.mapM_cons] at failed
      rcases bind_eq_error_iff.mp failed with first | ⟨result, _, behind⟩
      · exact ⟨input, List.mem_cons_self, first⟩
      · rcases bind_eq_error_iff.mp behind with later | ⟨_, _, joined⟩
        · obtain ⟨input, listed, fails⟩ := ih later
          exact ⟨input, List.mem_cons_of_mem _ listed, fails⟩
        · contradiction

theorem exists_result_of_mem {ε α β : Type} {step : α → Except ε β} {inputs : List α}
    {results : List β} (traversed : inputs.mapM step = .ok results) {input : α}
    (member : input ∈ inputs) : ∃ result ∈ results, step input = .ok result := by
  induction inputs generalizing results with
  | nil => contradiction
  | cons first rest ih =>
      obtain ⟨result, others, head, behind, rfl⟩ := mapM_cons_eq_ok_iff.mp traversed
      rcases List.mem_cons.mp member with rfl | later
      · exact ⟨result, List.mem_cons_self, head⟩
      · obtain ⟨result, listed, same⟩ := ih behind later
        exact ⟨result, List.mem_cons_of_mem _ listed, same⟩

theorem exists_input_of_result {ε α β : Type} {step : α → Except ε β} {inputs : List α}
    {results : List β} (traversed : inputs.mapM step = .ok results) {result : β}
    (member : result ∈ results) : ∃ input ∈ inputs, step input = .ok result := by
  induction inputs generalizing results with
  | nil =>
      cases traversed
      contradiction
  | cons first rest ih =>
      obtain ⟨result, others, head, behind, rfl⟩ := mapM_cons_eq_ok_iff.mp traversed
      rcases List.mem_cons.mp member with rfl | later
      · exact ⟨first, List.mem_cons_self, head⟩
      · obtain ⟨input, listed, same⟩ := ih behind later
        exact ⟨input, List.mem_cons_of_mem _ listed, same⟩

/-- If each result of a traversal is read off some object, all of them are read off a list of such
objects. -/
theorem exists_of_mapM_eq_ok {ε α β γ : Type} {step : α → Except ε β} {inputs : List α}
    {results : List β} {read : γ → β} {Right : α → γ → Prop}
    (traversed : inputs.mapM step = .ok results)
    (each : ∀ input ∈ inputs, ∀ result, step input = .ok result →
      ∃ object, read object = result ∧ Right input object) :
    ∃ objects, objects.map read = results ∧ List.Forall₂ Right inputs objects := by
  induction inputs generalizing results with
  | nil =>
      cases traversed
      exact ⟨[], rfl, .nil⟩
  | cons input rest ih =>
      obtain ⟨result, others, first, behind, rfl⟩ := mapM_cons_eq_ok_iff.mp traversed
      obtain ⟨object, rfl, right⟩ := each input List.mem_cons_self result first
      obtain ⟨objects, rfl, all⟩ :=
        ih behind fun input member => each input (List.mem_cons_of_mem _ member)
      exact ⟨object :: objects, rfl, .cons right all⟩

section Related

variable {α β γ : Type} {Right : α → β → Prop} {inputs : List α} {objects : List β}
  (related : List.Forall₂ Right inputs objects)
include related

theorem exists_input_of_mem {object : β} (member : object ∈ objects) :
    ∃ input ∈ inputs, Right input object := by
  induction related with
  | nil => contradiction
  | cons right _ ih =>
      rcases List.mem_cons.mp member with rfl | later
      · exact ⟨_, List.mem_cons_self, right⟩
      · obtain ⟨input, listed, right⟩ := ih later
        exact ⟨input, List.mem_cons_of_mem _ listed, right⟩

theorem map_eq_map_of_forall₂ {read : β → γ} {write : α → γ}
    (same : ∀ input object, Right input object → read object = write input) :
    objects.map read = inputs.map write := by
  induction related with
  | nil => rfl
  | cons right _ ih => rw [List.map_cons, List.map_cons, ih, same _ _ right]

end Related

end Bcpl
