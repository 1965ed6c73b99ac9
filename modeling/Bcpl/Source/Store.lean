/-!
A store that only grows. Its values are numbered from zero in the order in which they were put in,
and a number once given out keeps its value.
-/

namespace Bcpl

structure Store (α : Type) where
  values : List α := []
deriving Repr

namespace Store

variable {α : Type}

def insert (store : Store α) (value : α) : Nat × Store α :=
  (store.values.length, ⟨store.values ++ [value]⟩)

def get? (store : Store α) (key : Nat) : Option α := store.values[key]?

end Store

end Bcpl
