/-!
Regions of a text, given by the byte where they start and the byte where they stop. A region that
stops before it starts is empty.
-/

namespace Bcpl

structure Span where
  start : Nat
  stop : Nat
deriving DecidableEq, Repr, Inhabited

namespace Span

def empty (offset : Nat) : Span := ⟨offset, offset⟩

def length (span : Span) : Nat := span.stop - span.start

def isEmpty (span : Span) : Bool := span.length == 0

def join (first second : Span) : Span :=
  ⟨min first.start second.start, max first.stop second.stop⟩

end Span

end Bcpl
