import Bcpl.Proofs.Lexing.RawToken

/-!
The lexer reads and inserts in one pass, with a state and a token held back. Its tokens are those
of two passes: scan the whole text, then put in what the layout of lines stands for.
-/

namespace Bcpl

def Insertion.ofArmed (armed : Bool) : Insertion := if armed then .sameLine else .idle

namespace Chunk

variable (armed : Bool) (chunk : Chunk)

theorem inserted?_afterBlanks :
    ((Insertion.ofArmed armed).afterBlanks chunk.gap).inserted? chunk.lexeme.kind =
      chunk.inserted? armed := by
  cases armed with
  | false => simp [Insertion.ofArmed, Insertion.afterBlanks, Insertion.inserted?, inserted?]
  | true =>
      by_cases newLine : '\n' ∈ chunk.gap
      · simp [Insertion.ofArmed, Insertion.afterBlanks, Insertion.inserted?, inserted?, startsLine,
          newLine]
      · simp [Insertion.ofArmed, Insertion.afterBlanks, Insertion.inserted?, inserted?, startsLine,
          newLine]

variable {armed chunk}

theorem afterToken_afterBlanks (nothing : chunk.inserted? armed = none) :
    ((Insertion.ofArmed armed).afterBlanks chunk.gap).afterToken chunk.lexeme.kind =
      Insertion.ofArmed (chunk.arms armed) := by
  cases armed with
  | false => simp [Insertion.ofArmed, Insertion.afterBlanks, Insertion.afterToken, arms]
  | true =>
      by_cases newLine : '\n' ∈ chunk.gap
      · have other : chunk.lexeme.kind.isSemicolonStart = false := by
          simpa [inserted?, startsLine, newLine] using nothing
        simp [Insertion.ofArmed, Insertion.afterBlanks, Insertion.afterToken, arms, startsLine,
          newLine, other]
      · simp [Insertion.ofArmed, Insertion.afterBlanks, Insertion.afterToken, arms, startsLine,
          newLine]

/-- A lexeme behind an inserted one counts as if nothing could have ended before it. -/
theorem arms_of_inserted {kind : Kind} (inserted : chunk.inserted? armed = some kind) :
    chunk.arms armed = chunk.lexeme.kind.isCommandEnd := by
  unfold inserted? at inserted
  unfold arms
  split at inserted
  · next starts => simp_all
  · split at inserted
    · next starts => simp_all
    · contradiction

theorem inserted?_of_eof (ended : chunk.lexeme.kind = .eof) (armed : Bool) :
    chunk.inserted? armed = none := by
  simp [inserted?, ended, Kind.isSemicolonStart, Kind.isDoStart]

theorem inserted_kind {kind : Kind} (inserted : chunk.inserted? armed = some kind) :
    kind = .symbol .semicolon ∨ kind = .keyword .do_ := by
  unfold inserted? at inserted
  split at inserted
  · exact .inl (Option.some.inj inserted).symm
  · split at inserted
    · exact .inr (Option.some.inj inserted).symm
    · contradiction

theorem ne_eof_of_inserted {kind : Kind} (inserted : chunk.inserted? armed = some kind) :
    kind ≠ .eof := by
  rcases inserted_kind inserted with rfl | rfl <;> simp

end Chunk

namespace RawToken

variable {armed : Bool} {raw : RawToken}

theorem front_of_none (nothing : raw.chunk.inserted? armed = none) : raw.front armed = [] := by
  simp only [front, nothing, Option.map_none, Option.toList_none]

theorem front_of_some {kind : Kind} (inserted : raw.chunk.inserted? armed = some kind) :
    raw.front armed = [Token.synthetic kind raw.token.span.start] := by
  simp only [front, inserted, Option.map_some, Option.toList_some]

end RawToken

namespace Lexer

theorem tokens_of_eof {lexer : Lexer} (ended : lexer.next.1.kind = .eof) :
    lexer.tokens = [lexer.next.1] := by
  rw [tokens, if_pos ended]

theorem tokens_of_ne_eof {lexer : Lexer} (unfinished : lexer.next.1.kind ≠ .eof) :
    lexer.tokens = lexer.next.1 :: lexer.next.2.tokens := by
  rw [tokens, if_neg unfinished]

variable {armed : Bool} {raw : RawToken}

theorem emit_of_none (nothing : raw.chunk.inserted? armed = none) (cursor : Cursor) :
    emit ⟨cursor, (Insertion.ofArmed armed).afterBlanks raw.gap, none⟩ raw.token =
      (raw.token, ⟨cursor, .ofArmed (raw.chunk.arms armed), none⟩) := by
  have same := raw.chunk.inserted?_afterBlanks armed
  have after := Chunk.afterToken_afterBlanks nothing
  rw [nothing] at same
  simp only [RawToken.chunk] at same after
  simp only [emit, same, after, RawToken.chunk]

theorem emit_of_some {kind : Kind} (inserted : raw.chunk.inserted? armed = some kind)
    (cursor : Cursor) :
    emit ⟨cursor, (Insertion.ofArmed armed).afterBlanks raw.gap, none⟩ raw.token =
      (Token.synthetic kind raw.token.span.start, ⟨cursor, .idle, some raw.token⟩) := by
  have same := raw.chunk.inserted?_afterBlanks armed
  rw [inserted] at same
  simp only [RawToken.chunk] at same
  simp only [emit, same]

theorem next_of_held (cursor : Cursor) (token : Token) :
    (⟨cursor, .idle, some token⟩ : Lexer).next =
      (token, ⟨cursor, .ofArmed token.kind.isCommandEnd, none⟩) := by
  simp only [next, emit, Insertion.inserted?, Insertion.afterToken, Insertion.ofArmed]

/-- Between two tokens the state of a lexer says no more than whether a command may have ended, so
it goes on as the insertion rule does. -/
theorem tokens_eq_weave (cursor : Cursor) (armed : Bool) :
    (⟨cursor, .ofArmed armed, none⟩ : Lexer).tokens = weave armed (rawTokens cursor) := by
  fun_induction rawTokens cursor generalizing armed with
  | case1 cursor gap step ended =>
      have stepped : (⟨cursor, .ofArmed armed, none⟩ : Lexer).next =
        emit ⟨step.2, (Insertion.ofArmed armed).afterBlanks gap, none⟩ step.1 := next_of_unheld rfl
      have nothing : (⟨gap, step.1⟩ : RawToken).chunk.inserted? armed = none :=
        Chunk.inserted?_of_eof ended armed
      rw [emit_of_none nothing] at stepped
      rw [tokens_of_eof (by rw [stepped]; exact ended), stepped]
      simp only [weave, RawToken.front_of_none nothing, List.nil_append]
  | case2 cursor gap step unfinished ih =>
      have stepped : (⟨cursor, .ofArmed armed, none⟩ : Lexer).next =
        emit ⟨step.2, (Insertion.ofArmed armed).afterBlanks gap, none⟩ step.1 := next_of_unheld rfl
      rw [weave, ← ih]
      cases inserted : (⟨gap, step.1⟩ : RawToken).chunk.inserted? armed with
      | none =>
          rw [emit_of_none inserted] at stepped
          rw [tokens_of_ne_eof (by rw [stepped]; exact unfinished), stepped,
            RawToken.front_of_none inserted, List.nil_append]
      | some kind =>
          -- The token is held back, so two steps of the lexer answer to this one.
          rw [emit_of_some inserted] at stepped
          have held := next_of_held step.2 step.1
          rw [tokens_of_ne_eof (by rw [stepped]; exact Chunk.ne_eof_of_inserted inserted), stepped,
            tokens_of_ne_eof (by rw [held]; exact unfinished), held,
            RawToken.front_of_some inserted, Chunk.arms_of_inserted inserted]
          rfl

end Lexer

/-- The tokens of a text are the tokens written in it, with a `;` in front of each that starts a
command on a new line behind the end of another, and a `do` in front of each that does so on the
same line. -/
theorem lex_eq_weave (text : Text) : lex text = weave false (rawTokens (Cursor.ofText text)) :=
  Lexer.tokens_eq_weave (Cursor.ofText text) false

end Bcpl
