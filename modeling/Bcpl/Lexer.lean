import Bcpl.Text.Cursor
import Bcpl.Token.Basic
import Bcpl.Token.Insertion

/-!
The lexer hands out the tokens of a text one at a time, with the `;` and `do` that the layout of
lines stands for. After the end of the text it hands out end-of-file tokens without end; up to the
first of them every token makes what is left smaller (`size_next_lt`), so `tokens` ends.
-/

namespace Bcpl

structure Lexer where
  cursor : Cursor
  state : Insertion
  /-- A token held back while the one put in front of it is handed out. -/
  pending : Option Token
deriving DecidableEq, Repr

namespace Lexer

def ofText (text : Text) : Lexer := ⟨Cursor.ofText text, .idle, none⟩

def scan (cursor : Cursor) : Token × Cursor :=
  let lexeme := Lexeme.read cursor.rest
  let after := cursor.advance lexeme.text.length
  (⟨lexeme, ⟨cursor.offset, after.offset⟩⟩, after)

/-- Hand out a token, or hold it back and hand out the one that belongs in front of it. The held
token is looked at again when its turn comes, for it may itself end a command. -/
def emit (lexer : Lexer) (token : Token) : Token × Lexer :=
  match lexer.state.inserted? token.kind with
  | some kind =>
      (Token.synthetic kind token.span.start, { lexer with state := .idle, pending := some token })
  | none =>
      (token, { lexer with state := lexer.state.afterToken token.kind, pending := none })

def skipBlanks (lexer : Lexer) : Lexer :=
  { lexer with cursor := (lexer.cursor.bumpWhile lexer.state.skips).2 }

/-- Skip blanks, and scan a token. A line break is only left there behind a token that can end a
command. Then the line is over, and what follows is skipped in the new state. -/
def nextScanned (lexer : Lexer) : Token × Lexer :=
  let skipped := lexer.skipBlanks
  if skipped.cursor.current? = some '\n' then
    nextScanned { skipped with state := .newLine }
  else
    let (token, cursor) := scan skipped.cursor
    emit { skipped with cursor } token
termination_by if lexer.state = .sameLine then 1 else 0
decreasing_by
  have sameLine : lexer.state = .sameLine :=
    Insertion.eq_sameLine_of_skips (Cursor.not_of_current?_bumpWhile ‹_›)
  simp [sameLine]

def next (lexer : Lexer) : Token × Lexer :=
  match lexer.pending with
  | some token => lexer.emit token
  | none => lexer.nextScanned

def size (lexer : Lexer) : Nat :=
  4 * lexer.cursor.rest.length + (if lexer.pending.isSome then 2 else 0)
    + (if lexer.state = .idle then 0 else 1)

theorem inserted?_eof (state : Insertion) : state.inserted? .eof = none := by
  cases state <;> rfl

theorem emit_kind_eof {lexer : Lexer} {token : Token} (ended : token.kind = .eof) :
    (lexer.emit token).1.kind = .eof := by
  simp only [emit, ended, inserted?_eof]

theorem size_emit_le (lexer : Lexer) (token : Token) :
    (lexer.emit token).2.size ≤ 4 * lexer.cursor.rest.length + 2 := by
  unfold emit size
  split
  · simp
  · simp only [Option.isSome_none, Bool.false_eq_true, if_false]
    split <;> omega

theorem size_emit_lt {lexer : Lexer} {token : Token} (held : lexer.pending = some token) :
    (lexer.emit token).2.size < lexer.size := by
  unfold emit size
  split
  · next kind inserted =>
      have waiting : lexer.state ≠ .idle := by
        intro idle
        simp [idle, Insertion.inserted?] at inserted
      simp [held, waiting]
  · simp only [held, Option.isSome_none, Option.isSome_some, Bool.false_eq_true, if_false, if_true]
    split <;> split <;> omega

theorem length_rest_scan_lt {cursor : Cursor} (unfinished : (scan cursor).1.kind ≠ .eof) :
    (scan cursor).2.rest.length < cursor.rest.length := by
  have rest : cursor.rest ≠ [] := by
    intro finished
    simp [scan, finished, Lexeme.read] at unfinished
  have consumed := List.length_pos_iff.mpr (Lexeme.read_text_ne_nil rest)
  have left := List.length_pos_iff.mpr rest
  simp only [scan, Cursor.length_rest_advance]
  omega

theorem length_rest_skipBlanks_le (lexer : Lexer) :
    lexer.skipBlanks.cursor.rest.length ≤ lexer.cursor.rest.length := by
  simp only [skipBlanks, Cursor.bumpWhile, Cursor.length_rest_advance]
  exact Nat.sub_le _ _

theorem size_nextScanned_lt (lexer : Lexer) (unfinished : lexer.nextScanned.1.kind ≠ .eof) :
    lexer.nextScanned.2.size < 4 * lexer.cursor.rest.length := by
  fun_induction nextScanned lexer with
  | case1 lexer skipped stopped ih =>
      have left : skipped.cursor.rest.length ≤ _ := lexer.length_rest_skipBlanks_le
      exact Nat.lt_of_lt_of_le (ih unfinished) (Nat.mul_le_mul_left 4 left)
  | case2 lexer skipped going token cursor scanned =>
      have left : skipped.cursor.rest.length ≤ _ := lexer.length_rest_skipBlanks_le
      have shorter : cursor.rest.length < skipped.cursor.rest.length := by
        have more : (scan skipped.cursor).1.kind ≠ .eof := fun ended => by
          rw [scanned] at ended
          exact unfinished (emit_kind_eof ended)
        simpa only [scanned] using length_rest_scan_lt more
      have bounded := size_emit_le { skipped with cursor } token
      simp only at bounded
      omega

theorem size_next_lt (lexer : Lexer) (unfinished : lexer.next.1.kind ≠ .eof) :
    lexer.next.2.size < lexer.size := by
  cases held : lexer.pending with
  | some token =>
      simpa only [next, held] using size_emit_lt held
  | none =>
      simp only [next, held] at unfinished ⊢
      refine Nat.lt_of_lt_of_le (size_nextScanned_lt lexer unfinished) ?_
      simp only [size]
      omega

/-- The tokens up to and with the first end-of-file token. -/
def tokens (lexer : Lexer) : List Token :=
  let step := lexer.next
  if step.1.kind = .eof then [step.1] else step.1 :: tokens step.2
termination_by lexer.size
decreasing_by exact size_next_lt lexer ‹_›

end Lexer

def lex (text : Text) : List Token := (Lexer.ofText text).tokens

end Bcpl
