import Mathlib.Computability.Language
import Bcpl.Parser.Basic

/-!
The outline of programs: which kinds of tokens may follow each other, whatever the names are, how
many values they are given and how large the numbers are. It is a regular language, so what may
follow a token depends on no more than the position of a parser (`Position.following`).
-/

namespace Bcpl

open scoped Computability

namespace Outline

def one (kind : Kind) : Language Kind := {[kind]}

/-- One or more elements with a mark between each two. -/
def row (element : Language Kind) (mark : Kind) : Language Kind :=
  element * (one mark * element)∗

def declaration : Language Kind :=
  one .name * ((one (.symbol .eq) + one (.symbol .colon)) * one .number)

def block : Language Kind :=
  (one (.keyword .global) + one (.keyword .manifest)) *
    (one (.symbol .sectBra) * (row declaration (.symbol .semicolon) * one (.symbol .sectKet)))

def single : Language Kind :=
  row (one .name) (.symbol .comma) * (one (.symbol .eq) *
    (row (one .number) (.symbol .comma) + one (.keyword .vec) * one .number))

def definition : Language Kind :=
  one (.keyword .let_) * row single (.keyword .and)

def program : Language Kind := (block + definition)∗

/-- The kinds are the beginning of a program. -/
def Viable (kinds : List Kind) : Prop := ∃ rest, kinds ++ rest ∈ program

variable {kind : Kind} {word : List Kind} {first second : Language Kind}

@[simp] theorem cons_mem_one_mul {mark : Kind} :
    kind :: word ∈ one mark * first ↔ kind = mark ∧ word ∈ first := by
  rw [Language.mem_mul]
  constructor
  · intro split
    obtain ⟨front, single, back, member, same⟩ := split
    obtain rfl : front = [mark] := single
    obtain ⟨rfl, rfl⟩ := List.cons.inj same
    exact ⟨rfl, member⟩
  · intro split
    obtain ⟨rfl, member⟩ := split
    exact ⟨[kind], rfl, word, member, rfl⟩

@[simp] theorem nil_notMem_one_mul {mark : Kind} : [] ∉ one mark * first := by
  rw [Language.mem_mul]
  intro split
  obtain ⟨front, single, back, _, same⟩ := split
  obtain rfl : front = [mark] := single
  contradiction

theorem head_of_mem_one_mul {mark : Kind} (member : word ∈ one mark * first) :
    word.head?.getD .eof = mark := by
  cases word with
  | nil => exact absurd member nil_notMem_one_mul
  | cons kind rest => exact (cons_mem_one_mul.mp member).1

theorem kstar_mul (first second : Language Kind) :
    first∗ * second = second + first * (first∗ * second) := by
  conv_lhs => rw [← Language.one_add_self_mul_kstar_eq_kstar, add_mul, one_mul, mul_assoc]

/-- What may follow the number at the end of a definition. -/
def afterDefinition : Language Kind := (one (.keyword .and) * single)∗ * program

def afterValue : Language Kind :=
  (one (.symbol .comma) * one .number)∗ * afterDefinition

def afterEquals : Language Kind :=
  one .number * afterValue + one (.keyword .vec) * (one .number * afterDefinition)

def afterName : Language Kind :=
  (one (.symbol .comma) * one .name)∗ * (one (.symbol .eq) * afterEquals)

def afterEntry : Language Kind :=
  (one (.symbol .semicolon) * declaration)∗ * (one (.symbol .sectKet) * program)

theorem single_mul_afterDefinition : single * afterDefinition = one .name * afterName := by
  simp only [single, row, afterName, afterEquals, afterValue, mul_assoc, mul_add, add_mul]

theorem declaration_mul_afterEntry :
    declaration * afterEntry =
      one .name * ((one (.symbol .eq) + one (.symbol .colon)) * (one .number * afterEntry)) := by
  simp only [declaration, mul_assoc]

theorem program_eq :
    program = 1 + ((one (.keyword .global) + one (.keyword .manifest)) *
      (one (.symbol .sectBra) * (declaration * afterEntry)) +
        one (.keyword .let_) * (one .name * afterName)) := by
  have unfolded : program = 1 + (block + definition) * program :=
    (Language.one_add_self_mul_kstar_eq_kstar _).symm
  rw [← single_mul_afterDefinition]
  conv_lhs => rw [unfolded]
  simp only [block, definition, row, afterEntry, afterDefinition, mul_assoc, add_mul]

theorem nil_mem_program : [] ∈ program := Language.nil_mem_kstar _

theorem cons_mem_program :
    kind :: word ∈ program ↔
      (kind = .keyword .global ∨ kind = .keyword .manifest) ∧
          word ∈ one (.symbol .sectBra) * (declaration * afterEntry) ∨
        kind = .keyword .let_ ∧ word ∈ one .name * afterName := by
  rw [program_eq]
  simp only [add_mul, Language.mem_add, Language.mem_one, cons_mem_one_mul, or_and_right,
    reduceCtorEq, false_or]

theorem mem_afterDefinition :
    word ∈ afterDefinition ↔
      word ∈ program ∨ word ∈ one (.keyword .and) * (one .name * afterName) := by
  rw [← single_mul_afterDefinition, ← Language.mem_add]
  conv_lhs => rw [afterDefinition, kstar_mul, mul_assoc]
  rfl

theorem mem_afterValue :
    word ∈ afterValue ↔
      word ∈ afterDefinition ∨ word ∈ one (.symbol .comma) * (one .number * afterValue) := by
  rw [← Language.mem_add]
  conv_lhs => rw [afterValue, kstar_mul, mul_assoc]
  rfl

theorem mem_afterName :
    word ∈ afterName ↔
      word ∈ one (.symbol .eq) * afterEquals ∨
        word ∈ one (.symbol .comma) * (one .name * afterName) := by
  rw [← Language.mem_add]
  conv_lhs => rw [afterName, kstar_mul, mul_assoc]
  rfl

theorem mem_afterEntry :
    word ∈ afterEntry ↔
      word ∈ one (.symbol .sectKet) * program ∨
        word ∈ one (.symbol .semicolon) * (declaration * afterEntry) := by
  rw [← Language.mem_add]
  conv_lhs => rw [afterEntry, kstar_mul, mul_assoc]
  rfl

theorem nil_mem_afterDefinition : [] ∈ afterDefinition :=
  mem_afterDefinition.mpr (.inl nil_mem_program)

theorem nil_mem_afterValue : [] ∈ afterValue :=
  mem_afterValue.mpr (.inl nil_mem_afterDefinition)

theorem number_mem_afterEquals : [.number] ∈ afterEquals :=
  .inl (cons_mem_one_mul.mpr ⟨rfl, nil_mem_afterValue⟩)

theorem equals_mem_afterName : [.symbol .eq, .number] ∈ afterName :=
  mem_afterName.mpr (.inl (cons_mem_one_mul.mpr ⟨rfl, number_mem_afterEquals⟩))

theorem closing_mem_afterEntry : [.symbol .sectKet] ∈ afterEntry :=
  mem_afterEntry.mpr (.inl (cons_mem_one_mul.mpr ⟨rfl, nil_mem_program⟩))

theorem entry_mem_declaration_mul_afterEntry :
    [.name, .symbol .eq, .number, .symbol .sectKet] ∈ declaration * afterEntry := by
  have valued : [.number, .symbol .sectKet] ∈ one .number * afterEntry :=
    cons_mem_one_mul.mpr ⟨rfl, closing_mem_afterEntry⟩
  rw [declaration_mul_afterEntry, cons_mem_one_mul, add_mul]
  exact ⟨rfl, .inl (cons_mem_one_mul.mpr ⟨rfl, valued⟩)⟩

end Outline

end Bcpl
