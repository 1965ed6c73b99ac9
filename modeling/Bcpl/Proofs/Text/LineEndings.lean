import Bcpl.Proofs.Text.Splitting

/-!
Carriage returns at the ends of lines. They can be dropped from a text as a whole (`dropReturns`) or
from one line (`chomp`), and joining the chomped lines of a text drops them all
(`intercalate_chomp`).
-/

namespace Bcpl.Text

/-- A text without the carriage returns that stand directly in front of a line feed. -/
def dropReturns : Text → Text
  | [] => []
  | c :: rest =>
      if c = '\r' ∧ rest.head? = some '\n' then dropReturns rest else c :: dropReturns rest

variable {text front rest : Text} {c : Char}

theorem dropReturns_cons_of_ne (other : c ≠ '\r') :
    dropReturns (c :: rest) = c :: rest.dropReturns := by
  simp [dropReturns, other]

theorem dropReturns_append (apart : ¬(front.getLast? = some '\r' ∧ rest.head? = some '\n')) :
    dropReturns (front ++ rest) = front.dropReturns ++ rest.dropReturns := by
  induction front with
  | nil => rfl
  | cons c front ih =>
      cases front with
      | nil =>
          have kept : ¬(c = '\r' ∧ rest.head? = some '\n') := by simpa using apart
          simp [dropReturns, kept]
      | cons d front =>
          have behind : dropReturns (d :: (front ++ rest)) =
              dropReturns (d :: front) ++ rest.dropReturns := ih (by simpa using apart)
          rw [List.cons_append, List.cons_append, dropReturns, dropReturns.eq_2 c, behind]
          by_cases dropped : c = '\r' ∧ d = '\n' <;> simp [dropped]

theorem dropReturns_sublist (text : Text) : text.dropReturns.Sublist text := by
  induction text with
  | nil => exact .slnil
  | cons c rest ih =>
      rw [dropReturns]
      split
      · exact ih.cons c
      · exact ih.cons_cons c

theorem mem_of_mem_dropReturns (member : c ∈ text.dropReturns) : c ∈ text :=
  (dropReturns_sublist text).subset member

theorem mem_dropReturns (other : c ≠ '\r') : c ∈ text.dropReturns ↔ c ∈ text := by
  refine ⟨mem_of_mem_dropReturns, fun member => ?_⟩
  induction text with
  | nil => contradiction
  | cons d rest ih =>
      rw [dropReturns]
      rcases List.mem_cons.mp member with rfl | later
      · simp [other]
      · split
        · exact ih later
        · exact List.mem_cons_of_mem _ (ih later)

theorem dropReturns_of_notMem (absent : '\r' ∉ text ∨ '\n' ∉ text) :
    text.dropReturns = text := by
  induction text with
  | nil => rfl
  | cons c rest ih =>
      have kept : ¬(c = '\r' ∧ rest.head? = some '\n') := by
        rintro ⟨rfl, feed⟩
        have inside := List.mem_of_mem_head? feed
        simp [inside] at absent
      have behind : '\r' ∉ rest ∨ '\n' ∉ rest :=
        absent.imp (fun none member => none (List.mem_cons_of_mem c member))
          (fun none member => none (List.mem_cons_of_mem c member))
      rw [dropReturns, if_neg kept, ih behind]

/-- A text may begin with the line feed behind a carriage return that is dropped. -/
theorem head?_dropReturns (next : c ∈ text.dropReturns.head?) :
    c ∈ text.head? ∨ text.head? = some '\r' ∧ c = '\n' := by
  induction text with
  | nil => contradiction
  | cons d rest ih =>
      rw [dropReturns] at next
      split at next
      · next dropped =>
          obtain ⟨rfl, feed⟩ := dropped
          refine .inr ⟨rfl, ?_⟩
          rcases ih next with same | ⟨other, _⟩
          · exact (Option.some.inj (feed.symm.trans same)).symm
          · rw [feed] at other
            contradiction
      · exact .inl next

theorem head?_dropReturns_iff (noReturn : c ≠ '\r') (noFeed : c ≠ '\n') :
    text.dropReturns.head? = some c ↔ text.head? = some c := by
  constructor
  · intro first
    rcases head?_dropReturns first with same | ⟨_, feed⟩
    · exact same
    · exact absurd feed noFeed
  · intro first
    obtain ⟨rest, rfl⟩ := List.head?_eq_some_iff.mp first
    rw [dropReturns_cons_of_ne noReturn, List.head?_cons]

/-- A text without the carriage return at its end, if there is one. -/
def chomp (text : Text) : Text :=
  if text.getLast? = some '\r' then text.dropLast else text

theorem chomp_concat (line : Text) : chomp (line ++ ['\r']) = line := by
  simp [chomp]

theorem chomp_of_getLast? (other : text.getLast? ≠ some '\r') : text.chomp = text :=
  if_neg other

theorem chomp_subset (text : Text) : text.chomp ⊆ text := by
  rw [chomp]
  split
  · exact List.dropLast_subset text
  · exact List.Subset.refl text

theorem chomp_append (some : rest ≠ []) : chomp (front ++ rest) = front ++ rest.chomp := by
  have last : (front ++ rest).getLast? = rest.getLast? := by
    rw [List.getLast?_append, List.getLast?_eq_some_getLast some, Option.some_or]
  rw [chomp, chomp, last]
  split
  · exact List.dropLast_append_of_ne_nil some
  · rfl

theorem chomp_cons (other : c ≠ '\r') : chomp (c :: rest) = c :: rest.chomp := by
  by_cases empty : rest = []
  · subst empty
    exact chomp_of_getLast? (by simpa using other)
  · have joined : chomp ([c] ++ rest) = [c] ++ rest.chomp := chomp_append empty
    exact joined

/-- Of a line in front of a line break, the carriage return at its end is dropped. -/
theorem dropReturns_line {line : Text} (single : '\n' ∉ line) (rest : Text) :
    dropReturns (line ++ '\n' :: rest) = line.chomp ++ '\n' :: rest.dropReturns := by
  have newline : dropReturns ('\n' :: rest) = '\n' :: rest.dropReturns :=
    dropReturns_cons_of_ne (by decide)
  by_cases last : line.getLast? = some '\r'
  · obtain ⟨front, rfl⟩ := List.getLast?_eq_some_iff.mp last
    have absent : '\n' ∉ front := fun inside => single (List.mem_append_left _ inside)
    have ending : dropReturns ('\r' :: '\n' :: rest) = dropReturns ('\n' :: rest) := by
      simp [dropReturns]
    rw [List.append_assoc, List.singleton_append, dropReturns_append (by simp), ending, newline,
      dropReturns_of_notMem (.inr absent), chomp_concat]
  · rw [dropReturns_append fun ends => last ends.1, newline, dropReturns_of_notMem (.inr single),
      chomp_of_getLast? last]

theorem intercalate_chomp {lines : List Text} (some : lines ≠ [])
    (single : ∀ line ∈ lines, '\n' ∉ line) :
    ['\n'].intercalate (lines.map chomp) = (dropReturns (['\n'].intercalate lines)).chomp := by
  induction lines with
  | nil => contradiction
  | cons line others ih =>
      obtain ⟨here, behind⟩ := List.forall_mem_cons.mp single
      cases others with
      | nil =>
          rw [List.map_singleton, List.intercalate_singleton, List.intercalate_singleton,
            dropReturns_of_notMem (.inr here)]
      | cons next others =>
          have joined := ih (List.cons_ne_nil next others) behind
          rw [List.map_cons, List.map_cons, List.intercalate_cons_cons, ← List.map_cons, joined,
            List.intercalate_cons_cons, List.append_assoc, List.append_assoc,
            List.singleton_append, List.singleton_append, dropReturns_line here,
            chomp_append (List.cons_ne_nil _ _), chomp_cons (by decide)]

end Bcpl.Text
