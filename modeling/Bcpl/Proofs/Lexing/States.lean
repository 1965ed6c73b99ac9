import Bcpl.Proofs.Lexing.Ending
import Bcpl.Proofs.Text.Cursor

/-!
The states of a lexer between two calls. A new line is noticed and forgotten within one call, so the
lexer only remembers whether the last token could end a command; and while it holds a token back it
remembers nothing, for that token is looked at again (`Lexer.state_between_calls`).
-/

namespace Bcpl

/-- A cursor over a text, at a byte of it. -/
structure Cursor.StandsAt (cursor : Cursor) (text : Text) (offset : Nat) : Prop where
  whole : cursor.text = text
  place : cursor.offset = offset
  behind : text.dropBytes? offset = some cursor.rest

namespace Cursor

theorem standsAt_ofText (text : Text) : (ofText text).StandsAt text 0 :=
  ⟨rfl, rfl, by cases text <;> rfl⟩

/-- What a cursor passes stands between its two places. -/
theorem StandsAt.advance {cursor : Cursor} {text : Text} {offset : Nat}
    (stands : cursor.StandsAt text offset) (count : Nat) :
    (cursor.advance count).StandsAt text (cursor.advance count).offset ∧
      text.slice? offset (cursor.advance count).offset = some (cursor.rest.take count) := by
  obtain ⟨front, whole, placed⟩ := Text.dropBytes?_eq_some_iff.mp stands.behind
  have passes := cursor.passes_advance count
  have started : cursor.offset = front.size := stands.place.trans placed.symm
  constructor
  · refine ⟨stands.whole, rfl, Text.dropBytes?_eq_some_iff.mpr
      ⟨front ++ cursor.rest.take count, ?_, ?_⟩⟩
    · rw [List.append_assoc, ← passes.rest, whole]
    · rw [Text.size_append, passes.offset, started]
  · rw [← stands.place]
    exact passes.slice?_eq whole started

end Cursor

namespace Insertion

variable {state : Insertion} {kind : Kind}

/-- A `;` stands for a new line in front of a token that can start a command, and a `do` stands
in front of fewer tokens. -/
theorem inserted?_cases {inserted : Kind} (found : state.inserted? kind = some inserted) :
    kind.isSemicolonStart ∧ (inserted = .symbol .semicolon ∨
      inserted = .keyword .do_ ∧ kind.isDoStart) := by
  cases state with
  | idle => contradiction
  | sameLine =>
      simp only [inserted?, Option.ite_none_right_eq_some, Option.some.injEq] at found
      obtain ⟨starts, rfl⟩ := found
      refine ⟨?_, .inr ⟨rfl, starts⟩⟩
      cases kind with
      | keyword word => simp only [Kind.isSemicolonStart, starts, Bool.or_true]
      | _ => contradiction
  | newLine =>
      simp only [inserted?, Option.ite_none_right_eq_some, Option.some.injEq] at found
      obtain ⟨starts, rfl⟩ := found
      exact ⟨starts, .inl rfl⟩

theorem afterToken_eq_sameLine_iff :
    state.afterToken kind = .sameLine ↔ kind.isCommandEnd ∧ state ≠ .newLine := by
  cases state <;> simp [afterToken]

theorem afterToken_ne_newLine : state.afterToken kind ≠ .newLine := by
  cases state with
  | newLine => simp [afterToken]
  | idle => simp only [afterToken]; split <;> simp
  | sameLine => simp only [afterToken]; split <;> simp

theorem afterBlanks_eq_newLine_iff (steady : state ≠ .newLine) (blanks : Text) :
    state.afterBlanks blanks = .newLine ↔ state = .sameLine ∧ '\n' ∈ blanks := by
  unfold afterBlanks
  split
  · next crossed => simp [crossed]
  · next within => simp [within, steady]

end Insertion

namespace Lexer

/-- The next call finds a line break in front of the token it scans, behind a token that can end a
command. A token that was held back is not scanned again. -/
def BreaksLineIn (lexer : Lexer) (text : Text) : Prop :=
  lexer.pending = none ∧ lexer.state = .sameLine ∧
    ∃ gap, text.slice? lexer.cursor.offset lexer.next.1.span.start = some gap ∧ '\n' ∈ gap

/-- A lexer that has handed out an inserted token holds back the one behind it. -/
structure Holds (lexer : Lexer) (text : Text) (last held : Token) : Prop where
  state : lexer.state = .idle
  last : ∃ kind, last = Token.synthetic kind held.span.start ∧
    (kind = .symbol .semicolon ∨ kind = .keyword .do_ ∧ held.kind.isDoStart)
  starts : held.kind.isSemicolonStart
  cursor : lexer.cursor.StandsAt text held.span.stop

/-- A lexer between two calls. -/
structure Steady (lexer : Lexer) (text : Text) : Prop where
  state : lexer.state ≠ .newLine
  cursor : lexer.cursor.StandsAt text lexer.cursor.offset
  held : ∀ held ∈ lexer.pending, lexer.state = .idle ∧ lexer.cursor.StandsAt text held.span.stop

/-- A lexer behind a call that handed out a token, as the lexer before it tells. -/
structure Follows (lexer before : Lexer) (last : Token) (text : Text) : Prop where
  steady : lexer.Steady text
  holds : ∀ held ∈ lexer.pending, lexer.Holds text last held
  state : lexer.pending = none →
    (lexer.state = .sameLine ↔ last.kind.isCommandEnd ∧ ¬before.BreaksLineIn text)

variable {lexer : Lexer} {text : Text}

theorem steady_ofText (text : Text) : (ofText text).Steady text :=
  ⟨by simp [ofText], Cursor.standsAt_ofText text, by simp [ofText]⟩

theorem steady_emit {token : Token} (cursor : lexer.cursor.StandsAt text token.span.stop) :
    (lexer.emit token).2.Steady text := by
  have cursor' : lexer.cursor.StandsAt text lexer.cursor.offset := cursor.place ▸ cursor
  unfold emit
  split
  · next kind inserted =>
      refine ⟨by simp, cursor', ?_⟩
      rintro held ⟨⟩
      exact ⟨rfl, cursor⟩
  · next nothing => exact ⟨Insertion.afterToken_ne_newLine, cursor', by simp⟩

theorem holds_emit {token held : Token} (cursor : lexer.cursor.StandsAt text token.span.stop)
    (member : held ∈ (lexer.emit token).2.pending) :
    (lexer.emit token).2.Holds text (lexer.emit token).1 held := by
  unfold emit at member ⊢
  split at member
  · next kind inserted =>
      obtain rfl : token = held := Option.some.inj member
      obtain ⟨starts, which⟩ := Insertion.inserted?_cases inserted
      exact ⟨rfl, ⟨kind, rfl, which⟩, starts, cursor⟩
  · contradiction

/-- A token that nothing was put in front of is handed out, and it counts unless its line is new. -/
theorem state_emit {token : Token} (nothing : (lexer.emit token).2.pending = none) :
    (lexer.emit token).1 = token ∧
      ((lexer.emit token).2.state = .sameLine ↔
        token.kind.isCommandEnd ∧ lexer.state ≠ .newLine) := by
  unfold emit at nothing ⊢
  split at nothing
  · contradiction
  · exact ⟨rfl, Insertion.afterToken_eq_sameLine_iff⟩

/-- The scanned token stands behind the blanks, and the cursor behind the token. -/
theorem scanBehindBlanks_stands (cursor : lexer.cursor.StandsAt text lexer.cursor.offset) :
    text.slice? lexer.cursor.offset lexer.scanBehindBlanks.1.span.start =
        some (lexer.cursor.run isBlank) ∧
      lexer.scanBehindBlanks.2.StandsAt text lexer.scanBehindBlanks.1.span.stop := by
  obtain ⟨reached, gap⟩ := cursor.advance (lexer.cursor.run isBlank).length
  rw [lexer.cursor.take_run isBlank] at gap
  exact ⟨gap, (reached.advance _).1⟩

theorem breaksLineIn_iff (steady : lexer.Steady text) (unheld : lexer.pending = none)
    (last : lexer.next.1 = lexer.scanBehindBlanks.1) : lexer.BreaksLineIn text ↔
      lexer.state.afterBlanks (lexer.cursor.run isBlank) = .newLine := by
  rw [Insertion.afterBlanks_eq_newLine_iff steady.state, BreaksLineIn, last,
    (scanBehindBlanks_stands steady.cursor).1]
  simp [unheld]

/-- One call. -/
theorem follows_next (steady : lexer.Steady text) :
    lexer.next.2.Follows lexer lexer.next.1 text := by
  cases held : lexer.pending with
  | some token =>
      obtain ⟨idle, cursor⟩ := steady.held token held
      have step : lexer.next = lexer.emit token := by simp only [next, held]
      have unbroken : ¬lexer.BreaksLineIn text := fun breaks => by simp [breaks.1] at held
      rw [step]
      refine ⟨steady_emit cursor, fun _ => holds_emit cursor, fun nothing => ?_⟩
      obtain ⟨last, state⟩ := state_emit nothing
      rw [state, last, idle]
      simp [unbroken]
  | none =>
      have cursor := (scanBehindBlanks_stands steady.cursor).2
      have breaks := breaksLineIn_iff steady held
      rw [next_of_unheld held] at breaks ⊢
      refine ⟨steady_emit cursor, fun _ => holds_emit cursor, fun nothing => ?_⟩
      obtain ⟨last, state⟩ := state_emit nothing
      rw [state, last, breaks last]

theorem after_succ (lexer : Lexer) (calls : Nat) :
    lexer.after (calls + 1) = (lexer.after calls).next.2 := by
  induction calls generalizing lexer with
  | zero => rfl
  | succ calls ih => exact ih lexer.next.2

theorem steady_after (steady : lexer.Steady text) (calls : Nat) :
    (lexer.after calls).Steady text := by
  induction calls with
  | zero => exact steady
  | succ calls ih =>
      rw [after_succ]
      exact (follows_next ih).steady

end Lexer

/-- What a fresh lexer remembers after some calls. It never waits for a `;`. A token that it holds
back has just been announced by an inserted one, and is looked at with nothing before it. Otherwise
the lexer waits for a `do` if the last token can end a command, unless that token itself was found
on a new line behind one that can. -/
theorem Lexer.state_between_calls (text : Text) (calls : Nat) :
    let lexer := (ofText text).after calls
    (lexer.state = .idle ∨ lexer.state = .sameLine) ∧
      (∀ held ∈ lexer.pending, lexer.state = .idle ∧ held.kind.isSemicolonStart ∧
        lexer.cursor.StandsAt text held.span.stop ∧
        ∃ earlier kind, calls = earlier + 1 ∧
          (ofText text).answer earlier = Token.synthetic kind held.span.start ∧
          (kind = .symbol .semicolon ∨ kind = .keyword .do_ ∧ held.kind.isDoStart)) ∧
      ∀ earlier, calls = earlier + 1 → lexer.pending = none →
        (lexer.state = .sameLine ↔ ((ofText text).answer earlier).kind.isCommandEnd ∧
          ¬((ofText text).after earlier).BreaksLineIn text) := by
  intro lexer
  have steady := steady_after (steady_ofText text)
  have follows (earlier : Nat) : ((ofText text).after (earlier + 1)).Follows
      ((ofText text).after earlier) ((ofText text).answer earlier) text := by
    rw [after_succ]
    exact follows_next (steady earlier)
  refine ⟨?_, fun held member => ?_, ?_⟩
  · have settled := (steady calls).state
    revert settled
    change lexer.state ≠ .newLine → _
    cases lexer.state <;> simp
  · cases calls with
    | zero => contradiction
    | succ earlier =>
        obtain ⟨idle, ⟨kind, last, which⟩, starts, cursor⟩ := (follows earlier).holds held member
        exact ⟨idle, starts, cursor, earlier, kind, rfl, last, which⟩
  · rintro earlier rfl
    exact (follows earlier).state

end Bcpl
