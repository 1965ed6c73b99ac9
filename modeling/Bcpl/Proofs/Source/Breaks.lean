import Mathlib.Data.List.TakeDrop
import Bcpl.Proofs.Text.Encoding
import Bcpl.Source.LineTable

/-!
Finding the line of a byte. The bytes of the line breaks increase, so halving finds the first of
them that is not in front of the byte (`bisect_eq`). A byte that is a line break and one that is none
are found in two ways, but the line is the same in both (`LineTable.search_eq`): the number of line
breaks in front of the byte (`LineTable.index?_eq_ite`).
-/

namespace Bcpl

section Bisect

variable {numbers : List Nat} {number place : Nat}

/-- The smaller ones among increasing numbers are all in front of a place. -/
theorem countP_lt_eq (inside : place ≤ numbers.length)
    (below : ∀ each ∈ numbers.take place, each < number)
    (above : ∀ each ∈ numbers.drop place, number ≤ each) :
    numbers.countP (· < number) = place := by
  have front : (numbers.take place).countP (· < number) = place := by
    rw [List.countP_eq_length.mpr (by simpa using below), List.length_take, Nat.min_eq_left inside]
  have back : (numbers.drop place).countP (· < number) = 0 := by
    rw [List.countP_eq_zero]
    simpa using above
  rw [← List.take_append_drop place numbers, List.countP_append, front, back, Nat.add_zero]

variable (sorted : numbers.Pairwise (· < ·)) (inside : place < numbers.length)
include sorted

theorem lt_of_mem_take {each : Nat} (member : each ∈ numbers.take place) :
    each < numbers[place] := by
  obtain ⟨index, before, rfl⟩ := List.mem_take_iff_getElem.mp member
  exact List.pairwise_iff_getElem.mp sorted index place _ inside (by omega)

theorem le_of_mem_drop {each : Nat} (member : each ∈ numbers.drop place) :
    numbers[place] ≤ each := by
  obtain ⟨index, before, rfl⟩ := List.mem_drop_iff_getElem.mp member
  rcases Nat.eq_zero_or_pos index with rfl | behind
  · simp
  · exact Nat.le_of_lt
      (List.pairwise_iff_getElem.mp sorted place (place + index) inside (by omega) (by omega))

/-- What is halved reaches from the numbers known to be smaller to those known to be larger. The
place that is found is behind all smaller numbers, whether the number is there or not. -/
theorem bisect_eq {low high : Nat} (fits : high ≤ numbers.length) (ordered : low ≤ high)
    (below : ∀ each ∈ numbers.take low, each < number)
    (above : ∀ each ∈ numbers.drop high, number < each) :
    bisect numbers number low high fits =
      if number ∈ numbers then .ok (numbers.countP (· < number))
      else .error (numbers.countP (· < number)) := by
  fun_induction bisect numbers number low high fits with
  | case1 low high fits filled middle found =>
      have inside : middle < numbers.length := by omega
      have here : numbers[middle] ∈ numbers := List.getElem_mem inside
      have front := countP_lt_eq (Nat.le_of_lt inside) (fun _ => lt_of_mem_take sorted inside)
        fun _ => le_of_mem_drop sorted inside
      rw [found] at here front
      rw [if_pos here, front]
  | case2 low high fits filled middle other smaller ih =>
      refine ih (by omega) (fun each member => ?_) above
      rw [List.take_succ_eq_append_getElem (by omega), List.mem_append, List.mem_singleton] at member
      rcases member with before | rfl
      · exact Nat.lt_trans (lt_of_mem_take sorted _ before) smaller
      · exact smaller
  | case3 low high fits filled middle other larger ih =>
      refine ih (by omega) below fun each member => ?_
      have least := le_of_mem_drop sorted (by omega) member
      omega
  | case4 low high fits empty =>
      obtain rfl : low = high := by omega
      have absent : number ∉ numbers := by
        intro member
        rw [← List.take_append_drop low numbers, List.mem_append] at member
        rcases member with before | behind
        · exact Nat.lt_irrefl _ (below number before)
        · exact Nat.lt_irrefl _ (above number behind)
      rw [if_neg absent, countP_lt_eq fits below fun each member => Nat.le_of_lt (above each member)]

end Bisect

section LineFeeds

variable {start offset : Nat} {front back bytes : List UInt8}

theorem lineFeedsFrom_cons (start : Nat) (byte : UInt8) (rest : List UInt8) :
    lineFeedsFrom start (byte :: rest) =
      (if byte = 0x0a then [start] else []) ++ lineFeedsFrom (start + 1) rest := by
  rw [lineFeedsFrom, List.zipIdx_cons, List.filterMap_cons]
  by_cases feed : byte = 0x0a
  · simp only [if_pos feed]
    rfl
  · simp only [if_neg feed]
    rfl

theorem lineFeedsFrom_append : lineFeedsFrom start (front ++ back) =
    lineFeedsFrom start front ++ lineFeedsFrom (start + front.length) back := by
  rw [lineFeedsFrom, List.zipIdx_append, List.filterMap_append]
  rfl

theorem lineFeedsFrom_of_notMem (absent : 0x0a ∉ bytes) : lineFeedsFrom start bytes = [] := by
  rw [lineFeedsFrom, List.filterMap_eq_nil_iff]
  rintro ⟨byte, place⟩ member
  refine if_neg ?_
  rintro rfl
  exact absent (List.fst_mem_of_mem_zipIdx member)

theorem le_of_mem_lineFeedsFrom {place : Nat} (member : place ∈ lineFeedsFrom start bytes) :
    start ≤ place := by
  induction bytes generalizing start with
  | nil => contradiction
  | cons byte rest ih =>
      rw [lineFeedsFrom_cons, List.mem_append] at member
      rcases member with here | later
      · split at here
        · exact Nat.le_of_eq (List.mem_singleton.mp here).symm
        · contradiction
      · exact Nat.le_of_succ_le (ih later)

theorem pairwise_lineFeedsFrom (start : Nat) (bytes : List UInt8) :
    (lineFeedsFrom start bytes).Pairwise (· < ·) := by
  induction bytes generalizing start with
  | nil => exact .nil
  | cons byte rest ih =>
      rw [lineFeedsFrom_cons]
      split
      · exact List.pairwise_cons.mpr ⟨fun place => le_of_mem_lineFeedsFrom, ih _⟩
      · exact ih _

/-- The line feeds in front of a place are counted by their places. -/
theorem countP_lineFeedsFrom (start offset : Nat) (bytes : List UInt8) :
    (lineFeedsFrom start bytes).countP (· < start + offset) = (bytes.take offset).count 0x0a := by
  induction bytes generalizing start offset with
  | nil => simp [lineFeedsFrom]
  | cons byte rest ih =>
      cases offset with
      | zero =>
          rw [List.take_zero, List.count_nil, List.countP_eq_zero]
          intro place member
          have behind := le_of_mem_lineFeedsFrom member
          simpa using behind
      | succ offset =>
          have moved : start + (offset + 1) = start + 1 + offset := by omega
          have rest := ih (start + 1) offset
          rw [lineFeedsFrom_cons, List.countP_append, moved, rest, List.take_succ_cons,
            List.count_cons, Nat.add_comm]
          congr 1
          by_cases feed : byte = 0x0a
          · simp only [feed, if_true, List.countP_singleton, beq_self_eq_true]
            rw [if_pos (by simp only [decide_eq_true_eq]; omega)]
          · simp [feed]

theorem length_lineFeedsFrom (start : Nat) (bytes : List UInt8) :
    (lineFeedsFrom start bytes).length = bytes.count 0x0a := by
  induction bytes generalizing start with
  | nil => rfl
  | cons byte rest ih =>
      rw [lineFeedsFrom_cons, List.length_append, ih, List.count_cons, Nat.add_comm]
      congr 1
      by_cases feed : byte = 0x0a <;> simp [feed]

end LineFeeds

namespace LineTable

variable {table : LineTable}

/-- A table is known by its text. -/
theorem eq_ofText (table : LineTable) : table = ofText table.text := by
  obtain ⟨text, breaks, rfl⟩ := table
  rfl

/-- A line break and what is in front of it are on one line. -/
theorem search_eq (table : LineTable) (byte : Nat) :
    table.search byte =
      if byte ∈ table.breaks then .ok ((table.text.bytes.take byte).count 0x0a)
      else .error ((table.text.bytes.take byte).count 0x0a) := by
  have sorted := pairwise_lineFeedsFrom 0 table.text.bytes
  have counted := countP_lineFeedsFrom 0 byte table.text.bytes
  rw [← table.listed] at sorted counted
  rw [Nat.zero_add] at counted
  rw [search, bisect_eq sorted (Nat.le_refl _) (Nat.zero_le _) (by simp) (by simp), counted]

/-- The line of a byte is the number of line feeds in front of it. -/
theorem index?_eq_ite (table : LineTable) (byte : Nat) :
    table.index? byte =
      if byte ≤ table.size then some ((table.text.bytes.take byte).count 0x0a) else none := by
  rw [index?, search_eq]
  by_cases inside : byte ≤ table.size
  · rw [if_neg (Nat.not_lt.mpr inside), if_pos inside]
    by_cases feed : byte ∈ table.breaks
    · rw [if_pos feed]
    · rw [if_neg feed]
  · rw [if_pos (Nat.not_le.mp inside), if_neg inside]

theorem index?_eq_some_iff {byte index : Nat} :
    table.index? byte = some index ↔
      byte ≤ table.size ∧ (table.text.bytes.take byte).count 0x0a = index := by
  rw [index?_eq_ite, Option.ite_none_right_eq_some, Option.some.injEq]

theorem index?_mono {first second firstLine secondLine : Nat} (ordered : first ≤ second)
    (firstAt : table.index? first = some firstLine)
    (secondAt : table.index? second = some secondLine) : firstLine ≤ secondLine := by
  rw [← (index?_eq_some_iff.mp firstAt).2, ← (index?_eq_some_iff.mp secondAt).2]
  exact (List.take_sublist_take_left ordered).count_le _

end LineTable

end Bcpl
