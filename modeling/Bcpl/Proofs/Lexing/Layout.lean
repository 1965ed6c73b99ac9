import Bcpl.Proofs.Text.Slice
import Bcpl.Proofs.Lexing.LexemeEnd
import Bcpl.Proofs.Lexing.Weaving

/-!
How a text is laid out. Every text is a row of lexemes with blanks in front of them, in exactly one
way, and that row is what the lexer scans. To find the tokens of a text that is put together from
parts, it is enough to show a row for it.
-/

namespace Bcpl

/-- A lexeme that does not start with a blank. -/
def Lexeme.Visible (lexeme : Lexeme) : Prop :=
  ∃ c tail, lexeme.text = c :: tail ∧ Lexer.isBlank c = false

/-- A text is written as a row of chunks. Each lexeme is one that is read on its own and does not go
on with the text behind it. -/
inductive Layout : Text → List Chunk → Prop where
  | finish {gap : Text} (blank : ∀ c ∈ gap, Lexer.isBlank c) : Layout gap [⟨gap, ⟨.eof, []⟩⟩]
  | lexeme {gap rest : Text} {lexeme : Lexeme} {chunks : List Chunk}
      (blank : ∀ c ∈ gap, Lexer.isBlank c) (visible : lexeme.Visible)
      (read : Lexeme.read lexeme.text = lexeme) (ends : lexeme.EndsBefore rest)
      (following : Layout rest chunks) :
      Layout (gap ++ (lexeme.text ++ rest)) (⟨gap, lexeme⟩ :: chunks)

/-- The tokens of a row of chunks that starts at a byte of the text. -/
def placed : Nat → List Chunk → List RawToken
  | _, [] => []
  | offset, chunk :: rest =>
      let start := offset + Text.size chunk.gap
      let stop := start + Text.size chunk.lexeme.text
      ⟨chunk.gap, ⟨chunk.lexeme, ⟨start, stop⟩⟩⟩ :: placed stop rest

theorem Lexeme.Visible.ne_nil {lexeme : Lexeme} (visible : lexeme.Visible) : lexeme.text ≠ [] := by
  obtain ⟨c, tail, spelled, _⟩ := visible
  rw [spelled]
  exact List.cons_ne_nil c tail

theorem Lexeme.read_kind_ne_eof {text : Text} (unfinished : text ≠ []) :
    (read text).kind ≠ .eof := by
  fun_cases read text with
  | case1 => contradiction
  | case2 => simp [remark]
  | case3 first rest =>
      simp only [word]
      rcases ofWord_cases (first :: rest.takeWhile Char.isAlphanum) with same | ⟨reserved, same⟩ <;>
        simp [same]
  | case4 => simp [digits]
  | case5 =>
      unfold quotation
      split <;> simp
  | case6 first rest =>
      rcases mark_spelled first rest with same | ⟨symbol, same, _⟩ <;> simp [same]

theorem Lexeme.Visible.kind_ne_eof {lexeme : Lexeme} (visible : lexeme.Visible)
    (read : Lexeme.read lexeme.text = lexeme) : lexeme.kind ≠ .eof := by
  rw [← read]
  exact read_kind_ne_eof visible.ne_nil

theorem Cursor.advance_append {cursor : Cursor} {front after : Text}
    (split : cursor.rest = front ++ after) :
    cursor.advance front.length = ⟨cursor.text, after, cursor.offset + Text.size front⟩ := by
  simp [Cursor.advance, split]

theorem Lexer.scan_eq (cursor : Cursor) (lexeme : Lexeme) (after : Text)
    (split : cursor.rest = lexeme.text ++ after) (read : Lexeme.read cursor.rest = lexeme) :
    let stop := cursor.offset + Text.size lexeme.text
    scan cursor = (⟨lexeme, ⟨cursor.offset, stop⟩⟩, ⟨cursor.text, after, stop⟩) := by
  simp only [scan, read, Cursor.advance_append split]

namespace Layout

variable {text : Text} {chunks : List Chunk}

theorem takeWhile_gap {gap rest : Text} {lexeme : Lexeme} (blank : ∀ c ∈ gap, Lexer.isBlank c)
    (visible : lexeme.Visible) :
    (gap ++ (lexeme.text ++ rest)).takeWhile Lexer.isBlank = gap := by
  obtain ⟨c, tail, spelled, shown⟩ := visible
  rw [List.takeWhile_append_of_pos blank, spelled, List.cons_append,
    List.takeWhile_cons_of_neg (by simp [shown]), List.append_nil]

theorem rawTokens_eq (layout : Layout text chunks) {cursor : Cursor} (rest : cursor.rest = text) :
    rawTokens cursor = placed cursor.offset chunks := by
  induction layout generalizing cursor with
  | @finish gap blank =>
      have run : cursor.run Lexer.isBlank = gap := by
        rw [Cursor.run, rest, List.takeWhile_eq_self_iff.mpr blank]
      have passed := Cursor.advance_append (rest.trans (List.append_nil gap).symm)
      have scanned := Lexer.scan_eq (cursor.advance gap.length) ⟨.eof, []⟩ []
        (by rw [passed]; rfl) (by rw [passed]; rfl)
      rw [rawTokens, run, scanned, passed]
      simp [placed, Text.size]
  | @lexeme gap after lexeme chunks blank visible read ends following ih =>
      have run : cursor.run Lexer.isBlank = gap := by
        rw [Cursor.run, rest, takeWhile_gap blank visible]
      have passed := Cursor.advance_append rest
      have scanned := Lexer.scan_eq (cursor.advance gap.length) lexeme after (by rw [passed])
        (by rw [passed]; exact (Lexeme.read_append_iff visible.ne_nil).mpr ⟨read, ends⟩)
      rw [rawTokens, run, scanned, passed]
      simp only [if_neg (visible.kind_ne_eof read), placed]
      rw [ih rfl]

theorem exists_chunks (text : Text) : ∃ chunks, Layout text chunks := by
  induction counted : text.length using Nat.strong_induction_on generalizing text with
  | _ length ih =>
      have split : text.takeWhile Lexer.isBlank ++ text.dropWhile Lexer.isBlank = text :=
        List.takeWhile_append_dropWhile
      have blank : ∀ c ∈ text.takeWhile Lexer.isBlank, Lexer.isBlank c = true :=
        fun c member => List.mem_takeWhile_imp member
      by_cases finished : text.dropWhile Lexer.isBlank = []
      · rw [finished, List.append_nil] at split
        rw [← split]
        exact ⟨_, .finish blank⟩
      · obtain ⟨first, tail, after, rest, spelled⟩ := Lexeme.read_split finished
        have shown : Lexer.isBlank first = false := by
          have stopped := List.head?_dropWhile_not Lexer.isBlank text
          simpa only [rest, List.head?_cons] using stopped
        have visible : (Lexeme.read (text.dropWhile Lexer.isBlank)).Visible :=
          ⟨first, tail, spelled, shown⟩
        have whole : (Lexeme.read (text.dropWhile Lexer.isBlank)).text ++ after =
            text.dropWhile Lexer.isBlank := by
          rw [spelled, rest, List.cons_append]
        obtain ⟨read, ends⟩ := (Lexeme.read_append_iff visible.ne_nil).mp (congrArg _ whole)
        -- What is read is not empty, so less text is left to lay out.
        have shorter : after.length < length := by
          rw [← counted, ← split, ← whole, spelled]
          simp only [List.length_append, List.length_cons]
          omega
        obtain ⟨chunks, following⟩ := ih after.length shorter after rfl
        have layout := Layout.lexeme blank visible read ends following
        rw [whole, split] at layout
        exact ⟨_, layout⟩

theorem lex_eq (layout : Layout text chunks) : lex text = weave false (placed 0 chunks) := by
  have tokens := Lexer.tokens_eq_weave (Cursor.ofText text) false
  rw [layout.rawTokens_eq rfl] at tokens
  exact tokens

end Layout

end Bcpl
