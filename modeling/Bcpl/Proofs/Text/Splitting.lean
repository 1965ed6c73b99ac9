import Bcpl.Text.Basic

/-!
The pieces of a text between the occurrences of a character. Joined again they are the text
(`intercalate_splitOn`), and pieces that are each ended by the character are found again
(`splitOn_terminated`).
-/

namespace Bcpl.Text

variable {separator : Char} {text piece rest : Text} {pieces : List Text}

theorem splitOn_eq (separator : Char) (text : Text) :
    text.splitOn separator = List.splitOn separator text := by
  induction text with
  | nil => simp [splitOn, List.splitOn_eq_splitOnP]
  | cons c rest ih =>
      obtain ⟨first, others, split⟩ :=
        List.exists_cons_of_ne_nil (List.splitOn_ne_nil separator rest)
      rw [List.splitOn_cons_eq_if_modifyHead, splitOn, ih, split]
      simp only [beq_iff_eq, List.modifyHead_cons]

theorem splitOn_ne_nil (separator : Char) (text : Text) : splitOn separator text ≠ [] := by
  rw [splitOn_eq]
  exact List.splitOn_ne_nil separator text

theorem length_splitOn (separator : Char) (text : Text) :
    (splitOn separator text).length = text.count separator + 1 := by
  fun_induction splitOn separator text with
  | case1 => rfl
  | case2 rest ih => simp [ih]
  | case3 c rest other none ih => exact absurd none (splitOn_ne_nil separator rest)
  | case4 c rest other first others split ih =>
      rw [List.count_cons_of_ne other, ← ih, split]
      rfl

theorem intercalate_splitOn (separator : Char) (text : Text) :
    [separator].intercalate (text.splitOn separator) = text := by
  rw [splitOn_eq]
  exact List.intercalate_splitOn separator

theorem splitOn_append_cons (absent : separator ∉ piece) (rest : Text) :
    splitOn separator (piece ++ separator :: rest) = piece :: rest.splitOn separator := by
  rw [splitOn_eq, splitOn_eq]
  exact List.splitOn_append_cons_self_of_not_mem absent rest

theorem splitOn_terminated (absent : ∀ piece ∈ pieces, separator ∉ piece) :
    splitOn separator (pieces.flatMap (· ++ [separator])) = pieces ++ [[]] := by
  induction pieces with
  | nil => rfl
  | cons piece others ih =>
      obtain ⟨here, behind⟩ := List.forall_mem_cons.mp absent
      rw [List.flatMap_cons, List.append_assoc, List.singleton_append, splitOn_append_cons here,
        ih behind, List.cons_append]

end Bcpl.Text
