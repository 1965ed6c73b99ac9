import Bcpl.Source.LineTable

/-!
Named texts. A text read from a file keeps its path and is named by the last part of it.
-/

namespace Bcpl

/-- The last part of a path, if it names an entry of a directory. Empty parts and single dots say
nothing about where a path leads. -/
def fileName? (path : Text) : Option Text :=
  match ((path.splitOn '/').filter fun part => part != [] && part != ['.']).getLast? with
  | some ['.', '.'] => none
  | name? => name?

structure Source where
  name : Text
  path : Option Text
  text : Text
deriving DecidableEq, Repr, Inhabited

namespace Source

/-- A text that does not come from a file. -/
def inline (name text : Text) : Source := ⟨name, none, text⟩

def ofFile (path text : Text) : Source := ⟨(fileName? path).getD path, some path, text⟩

def lines (source : Source) : LineTable := LineTable.ofText source.text

end Source

end Bcpl
