import Bcpl.Proofs.Lexing.LongestMatch
import Bcpl.Proofs.Lexing.Lossless

/-!
How long a lexer goes on. A call that is not the last uses up a byte of the text: a `;` stands for
a new line, and a `do` for a letter of the reserved word behind it. So the tokens of a text are at
most one more than its bytes, and all calls behind the end of the file hand out that end
(`lex_ends`).
-/

namespace Bcpl

namespace Lexer

/-- A lexer after some calls. -/
def after (lexer : Lexer) : Nat → Lexer
  | 0 => lexer
  | calls + 1 => lexer.next.2.after calls

/-- What a lexer hands out after some earlier calls. -/
def answer (lexer : Lexer) (calls : Nat) : Token := (lexer.after calls).next.1

variable {lexer : Lexer} {token : Token}

theorem kind_of_emit_eof (ended : (lexer.emit token).1.kind = .eof) : token.kind = .eof := by
  unfold emit at ended
  split at ended
  · next kind inserted =>
      cases state : lexer.state <;> simp only [state, Insertion.inserted?] at inserted
      · contradiction
      all_goals
        split at inserted <;> cases inserted
        contradiction
  · exact ended

/-- The end of the file is never held back. -/
theorem kind_of_mem_pending {held : Token} (member : held ∈ lexer.next.2.pending) :
    held.kind ≠ .eof := by
  have kept {lexer : Lexer} {token : Token} (member : held ∈ (lexer.emit token).2.pending) :
      held.kind ≠ .eof := by
    intro ended
    unfold emit at member
    split at member
    · next kind inserted =>
        obtain rfl : token = held := Option.some.inj member
        rw [ended, inserted?_eof] at inserted
        contradiction
    · contradiction
  unfold next at member
  split at member
  · exact kept member
  · rw [nextScanned_eq] at member
    exact kept member

/-- A lexer at the end of its text, between two calls. -/
def spent (text : Text) (offset : Nat) : Lexer := ⟨⟨text, [], offset⟩, .idle, none⟩

theorem emit_eof (text : Text) (offset : Nat) (state : Insertion) :
    emit ⟨⟨text, [], offset⟩, state, none⟩ ⟨⟨.eof, []⟩, Span.empty offset⟩ =
      (⟨⟨.eof, []⟩, Span.empty offset⟩, spent text offset) := by
  have idle : state.afterToken .eof = .idle := by cases state <;> rfl
  simp only [emit, inserted?_eof, idle, spent]

theorem next_spent (text : Text) (offset : Nat) :
    (spent text offset).next = (⟨⟨.eof, []⟩, Span.empty offset⟩, spent text offset) :=
  (next_of_unheld rfl).trans (emit_eof text offset .idle)

/-- A lexer that hands out the end of the file is spent. -/
theorem next_of_ended (unheld : ∀ held ∈ lexer.pending, held.kind ≠ .eof)
    (ended : lexer.next.1.kind = .eof) :
    ∃ text offset, lexer.next = (⟨⟨.eof, []⟩, Span.empty offset⟩, spent text offset) := by
  obtain ⟨cursor, state, pending⟩ := lexer
  cases pending with
  | some held => exact absurd (kind_of_emit_eof ended) (unheld held rfl)
  | none =>
      let blanks := cursor.run isBlank
      have stepped : (⟨cursor, state, none⟩ : Lexer).next = _ := next_of_unheld rfl
      rw [stepped] at ended ⊢
      have scanned : (scan (cursor.advance blanks.length)).1.kind = .eof := kind_of_emit_eof ended
      have finished : (cursor.advance blanks.length).rest = [] := by
        by_contra left
        exact Lexeme.read_kind_ne_eof left scanned
      have scan := scan_eq (cursor.advance blanks.length) ⟨.eof, []⟩ [] finished
        (by rw [finished]; rfl)
      refine ⟨cursor.text, (cursor.advance blanks.length).offset, ?_⟩
      exact (congrArg (fun step => emit ⟨step.2, state.afterBlanks blanks, none⟩ step.1) scan).trans
        (emit_eof _ _ _)

theorem answer_spent (text : Text) (offset calls : Nat) :
    (spent text offset).answer calls = ⟨⟨.eof, []⟩, Span.empty offset⟩ := by
  induction calls with
  | zero => rw [answer, after, next_spent]
  | succ calls ih =>
      rw [answer] at ih
      rw [answer, after, next_spent, ih]

theorem tokens_ne_nil (lexer : Lexer) : lexer.tokens ≠ [] := by
  rw [tokens]
  split <;> exact List.cons_ne_nil _ _

/-- A lexer hands out its tokens one after the other, and then the last of them again and again. -/
theorem answer_eq_getD {last : Token} (unheld : ∀ held ∈ lexer.pending, held.kind ≠ .eof)
    (final : lexer.tokens.getLast? = some last) (calls : Nat) :
    lexer.answer calls = lexer.tokens.getD calls last := by
  fun_induction tokens lexer generalizing calls with
  | case1 lexer step ended =>
      obtain rfl : step.1 = last := by simpa using final
      obtain ⟨text, offset, stepped⟩ := next_of_ended unheld ended
      cases calls with
      | zero => rfl
      | succ calls =>
          change lexer.next.2.answer calls = lexer.next.1
          rw [stepped]
          exact answer_spent text offset calls
  | case2 lexer step unfinished ih =>
      cases calls with
      | zero => rfl
      | succ calls =>
          rw [List.getLast?_cons_of_ne_nil (tokens_ne_nil _)] at final
          exact ih (fun held => kind_of_mem_pending) final calls

end Lexer

section Length

variable {text : Text} {armed : Bool} {chunk : Chunk}

theorem Chunk.length_text_of_isDoStart (visible : chunk.lexeme.Visible)
    (read : Lexeme.read chunk.lexeme.text = chunk.lexeme)
    (starts : chunk.lexeme.kind.isDoStart = true) : 2 ≤ chunk.lexeme.text.length := by
  cases kind : chunk.lexeme.kind with
  | keyword reserved =>
      have word := Lexeme.word_read visible.ne_nil (by rw [read, kind]; simp)
      rw [read] at word
      rw [← word.spelling_eq kind]
      exact reserved.length_spelling
  | _ => simp [kind, Kind.isDoStart] at starts

/-- What is inserted stands for a byte that the lexeme behind it does not need. -/
theorem Chunk.inserted?_length_lt (armed : Bool) (visible : chunk.lexeme.Visible)
    (read : Lexeme.read chunk.lexeme.text = chunk.lexeme) :
    (chunk.inserted? armed).toList.length < Text.size chunk.gap + Text.size chunk.lexeme.text := by
  have positive := Text.size_pos visible.ne_nil
  unfold Chunk.inserted?
  split
  · next starts =>
      simp only [Bool.and_eq_true] at starts
      have newLine : '\n' ∈ chunk.gap := by simpa [startsLine] using starts.1.2
      have gap := Text.size_pos (List.ne_nil_of_mem newLine)
      simp only [Option.toList_some, List.length_singleton]
      omega
  · split
    · next starts =>
        simp only [Bool.and_eq_true] at starts
        have long := chunk.length_text_of_isDoStart visible read starts.2
        have bytes := Text.length_le_size chunk.lexeme.text
        simp only [Option.toList_some, List.length_singleton]
        omega
    · simp only [Option.toList_none, List.length_nil]
      omega

theorem length_front (raw : RawToken) :
    (raw.front armed).length = (raw.chunk.inserted? armed).toList.length := by
  rw [RawToken.front]
  cases raw.chunk.inserted? armed <;> rfl

theorem Layout.length_weave_le {chunks : List Chunk} (layout : Layout text chunks) (armed : Bool)
    (offset : Nat) : (weave armed (placed offset chunks)).length ≤ text.size + 1 := by
  induction layout generalizing armed offset with
  | @finish gap blank =>
      simp only [placed, weave, List.length_append, length_front, RawToken.chunk]
      rw [Chunk.inserted?_of_eof rfl]
      simp
  | @lexeme gap after lexeme chunks blank visible read ends following ih =>
      have front : (Chunk.inserted? armed ⟨gap, lexeme⟩).toList.length <
          gap.size + lexeme.text.size :=
        Chunk.inserted?_length_lt armed visible read
      have behind := ih (Chunk.arms armed ⟨gap, lexeme⟩) (offset + gap.size + Text.size lexeme.text)
      simp only [placed, weave, List.length_append, List.length_cons, length_front, RawToken.chunk,
        Text.size_append] at front behind ⊢
      omega

theorem length_le_length_weave (armed : Bool) (offset : Nat) (chunks : List Chunk) :
    chunks.length ≤ (weave armed (placed offset chunks)).length := by
  induction chunks generalizing armed offset with
  | nil => exact Nat.zero_le _
  | cons chunk rest ih =>
      obtain ⟨gap, lexeme⟩ := chunk
      have behind := ih (Chunk.arms armed ⟨gap, lexeme⟩) (offset + gap.size + lexeme.text.size)
      simp only [placed, weave, RawToken.chunk, List.length_append, List.length_cons] at behind ⊢
      omega

/-- A row of plus signs with nothing between them. -/
def plusRow (count : Nat) : List Chunk :=
  List.replicate count ⟨[], ⟨.symbol .plus, ['+']⟩⟩ ++ [⟨[], ⟨.eof, []⟩⟩]

theorem layout_plusRow (count : Nat) : Layout (List.replicate count '+') (plusRow count) := by
  induction count with
  | zero => exact .finish (by simp)
  | succ count ih =>
      have ends : Lexeme.EndsBefore ⟨.symbol .plus, ['+']⟩ (List.replicate count '+') := by
        intro c next
        obtain rfl : c = '+' := List.eq_of_mem_replicate (List.mem_of_mem_head? next)
        decide
      have unspaced : ∀ c ∈ ([] : Text), Lexer.isBlank c := by simp
      exact .lexeme unspaced ⟨'+', [], rfl, rfl⟩ rfl ends ih

/-- As many tokens as a text of some size can have. -/
theorem exists_length_lex_eq (size : Nat) :
    ∃ text : Text, text.size = size ∧ (lex text).length = size + 1 := by
  have bytes (count : Nat) : Text.size (List.replicate count '+') = count := by
    induction count with
    | zero => rfl
    | succ count ih =>
        rw [List.replicate_succ, Text.size, ih, Nat.add_comm]
        rfl
  have layout := layout_plusRow size
  have most := layout.length_weave_le false 0
  have least := length_le_length_weave false 0 (plusRow size)
  refine ⟨_, bytes size, ?_⟩
  rw [layout.lex_eq]
  simp only [plusRow, List.length_append, List.length_replicate, List.length_singleton] at least
  rw [bytes] at most
  exact Nat.le_antisymm most least

end Length

/-- Lexing ends. A text has one end-of-file token, as its last one, and it has at most one token
more than bytes, the inserted ones counted in; no smaller bound holds for all texts of its size.
Called again and again, a lexer hands out these tokens one by one, and then the last of them for
good. -/
theorem lex_ends (text : Text) :
    let ending : Token := ⟨⟨.eof, []⟩, Span.empty text.size⟩
    (∃ front, lex text = front ++ [ending] ∧ ∀ token ∈ front, token.kind ≠ .eof) ∧
      (lex text).length ≤ text.size + 1 ∧
      (∃ other : Text, other.size = text.size ∧ (lex other).length = text.size + 1) ∧
      ∀ calls, (Lexer.ofText text).answer calls = (lex text).getD calls ending := by
  intro ending
  obtain ⟨chunks, layout⟩ := Layout.exists_chunks text
  have ended := layout.exists_weave_eq false 0
  have short := layout.length_weave_le false 0
  rw [Nat.zero_add] at ended
  rw [← layout.lex_eq] at ended short
  refine ⟨ended, short, exists_length_lex_eq text.size, ?_⟩
  intro calls
  obtain ⟨front, whole, _⟩ := ended
  refine Lexer.answer_eq_getD (by simp [Lexer.ofText]) ?_ calls
  rw [← lex, whole, List.getLast?_append, List.getLast?_singleton, Option.some_or]

end Bcpl
