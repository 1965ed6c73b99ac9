import Bcpl.Token.Kind

/-!
The rule that puts a `;` or a `do` in front of a token. Between two tokens it knows whether the
first could end a command, and whether a new line follows it.
-/

namespace Bcpl

inductive Insertion where
  | idle
  /-- The last token can end a command, and its line goes on. -/
  | sameLine
  /-- The last token can end a command, and its line is over. -/
  | newLine
deriving DecidableEq, Repr, Inhabited

namespace Insertion

/-- Whether a character is skipped between two tokens. Where a line that can end a command goes on,
its line break is not, for it may stand for a `;`. -/
def skips (state : Insertion) (c : Char) : Bool :=
  c = ' ' || c = '\t' || c = '\r' || (c = '\n' && state != .sameLine)

theorem eq_sameLine_of_skips {state : Insertion} (stops : state.skips '\n' = false) :
    state = .sameLine := by
  cases state with
  | sameLine => rfl
  | idle => contradiction
  | newLine => contradiction

/-- The state after a token that nothing is put in front of. -/
def afterToken : Insertion → Kind → Insertion
  | .newLine, _ => .idle
  | _, kind => if kind.isCommandEnd then .sameLine else .idle

def inserted? : Insertion → Kind → Option Kind
  | .idle, _ => none
  | .sameLine, kind => if kind.isDoStart then some (.keyword .do_) else none
  | .newLine, kind => if kind.isSemicolonStart then some (.symbol .semicolon) else none

end Insertion

end Bcpl
