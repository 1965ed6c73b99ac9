import Bcpl.Lexer
import Bcpl.Proofs.Text.Cursor

/-!
The blanks between two tokens. A lexer stops at a line break that may stand for a `;` and then skips
blanks again, in another state; both rounds together pass one run of blanks
(`Lexer.next_of_unheld`).
-/

namespace Bcpl

def Lexer.isBlank (c : Char) : Bool := c = ' ' || c = '\t' || c = '\r' || c = '\n'

namespace Insertion

/-- The state behind blanks. A line break among them ends the line of a command. -/
def afterBlanks (state : Insertion) (blanks : Text) : Insertion :=
  if state = .sameLine ∧ '\n' ∈ blanks then .newLine else state

variable {state : Insertion} {c : Char} {text : Text}

theorem isBlank_of_skips (skipped : state.skips c = true) : Lexer.isBlank c = true := by
  simp only [skips, Bool.or_eq_true, Bool.and_eq_true] at skipped
  simp only [Lexer.isBlank, Bool.or_eq_true]
  exact skipped.imp_right And.left

/-- The only blank that may stay unskipped is a line break. -/
theorem isBlank_eq_false_of_skips (stops : state.skips c = false) (other : c ≠ '\n') :
    Lexer.isBlank c = false := by
  simpa [skips, Lexer.isBlank, other] using stops

/-- A run of blanks begins with what is skipped in a state. -/
theorem takeWhile_isBlank (state : Insertion) (text : Text) :
    text.takeWhile Lexer.isBlank =
      text.takeWhile state.skips ++ (text.dropWhile state.skips).takeWhile Lexer.isBlank := by
  have blank : ∀ c ∈ text.takeWhile state.skips, Lexer.isBlank c = true :=
    fun c member => isBlank_of_skips (List.mem_takeWhile_imp member)
  rw [← List.takeWhile_append_of_pos blank, List.takeWhile_append_dropWhile]

theorem afterBlanks_of_skips {blanks : Text} (skipped : ∀ c ∈ blanks, state.skips c = true) :
    state.afterBlanks blanks = state := by
  refine if_neg fun broken => ?_
  obtain ⟨rfl, crossed⟩ := broken
  exact absurd (skipped '\n' crossed) (by decide)

end Insertion

namespace Lexer

variable {lexer : Lexer}

/-- What a call scans unless a token is held back. -/
def scanBehindBlanks (lexer : Lexer) : Token × Cursor :=
  scan (lexer.cursor.advance (lexer.cursor.run isBlank).length)

theorem run_isBlank (lexer : Lexer) : lexer.cursor.run isBlank =
    lexer.cursor.run lexer.state.skips ++ lexer.skipBlanks.cursor.run isBlank := by
  simp only [skipBlanks, Cursor.run, Cursor.rest_bumpWhile]
  exact lexer.state.takeWhile_isBlank lexer.cursor.rest

/-- A line break that stops the skipping is a blank as well. -/
theorem newline_mem_run (stopped : lexer.skipBlanks.cursor.current? = some '\n') :
    '\n' ∈ lexer.cursor.run isBlank := by
  obtain ⟨after, rest⟩ := List.head?_eq_some_iff.mp stopped
  have blank : isBlank '\n' = true := by decide
  have run : lexer.skipBlanks.cursor.run isBlank = '\n' :: after.takeWhile isBlank := by
    rw [Cursor.run, rest, List.takeWhile_cons_of_pos blank]
  rw [run_isBlank, run]
  exact List.mem_append_right _ List.mem_cons_self

/-- Where nothing but a line break can stop the skipping, all blanks are skipped. -/
theorem run_isBlank_of_going (going : lexer.skipBlanks.cursor.current? ≠ some '\n') :
    lexer.cursor.run isBlank = lexer.cursor.run lexer.state.skips := by
  have none : lexer.skipBlanks.cursor.run isBlank = [] := by
    cases rest : lexer.skipBlanks.cursor.rest with
    | nil => rw [Cursor.run, rest, List.takeWhile_nil]
    | cons c after =>
        have current : lexer.skipBlanks.cursor.current? = some c := by
          rw [Cursor.current?, rest, List.head?_cons]
        have stops := Cursor.not_of_current?_bumpWhile current
        have other : c ≠ '\n' := fun same => going (same ▸ current)
        have shown := Insertion.isBlank_eq_false_of_skips stops other
        rw [Cursor.run, rest, List.takeWhile_cons_of_neg (by simp [shown])]
  rw [run_isBlank, none, List.append_nil]

theorem scanBehindBlanks_skipBlanks (lexer : Lexer) (state : Insertion) :
    scanBehindBlanks { lexer.skipBlanks with state } = lexer.scanBehindBlanks := by
  have passed := lexer.cursor.advance_advance (lexer.cursor.run lexer.state.skips).length
    (lexer.skipBlanks.cursor.run isBlank).length
  rw [← List.length_append, ← run_isBlank] at passed
  exact congrArg scan passed

/-- Blanks skipped in two rounds are one run of blanks, and the line break between the rounds is
one among them. -/
theorem nextScanned_eq (lexer : Lexer) : lexer.nextScanned =
    emit ⟨lexer.scanBehindBlanks.2, lexer.state.afterBlanks (lexer.cursor.run isBlank),
      lexer.pending⟩ lexer.scanBehindBlanks.1 := by
  fun_induction nextScanned lexer with
  | case1 lexer skipped stopped ih =>
      have sameLine : lexer.state = .sameLine :=
        Insertion.eq_sameLine_of_skips (Cursor.not_of_current?_bumpWhile stopped)
      have broken : lexer.state.afterBlanks (lexer.cursor.run isBlank) = .newLine :=
        if_pos ⟨sameLine, newline_mem_run stopped⟩
      rw [ih, scanBehindBlanks_skipBlanks, broken]
      rfl
  | case2 lexer skipped going token cursor scanned =>
      have run := run_isBlank_of_going going
      have kept : lexer.state.afterBlanks (lexer.cursor.run isBlank) = lexer.state := by
        rw [run]
        exact Insertion.afterBlanks_of_skips fun c member => List.mem_takeWhile_imp member
      have same : lexer.scanBehindBlanks = (token, cursor) := by
        rw [scanBehindBlanks, run]
        exact scanned
      rw [kept, same]
      rfl

theorem next_of_unheld (unheld : lexer.pending = none) :
    lexer.next = emit
      ⟨lexer.scanBehindBlanks.2, lexer.state.afterBlanks (lexer.cursor.run isBlank), none⟩
      lexer.scanBehindBlanks.1 := by
  simp only [next, unheld, nextScanned_eq]

end Lexer

end Bcpl
