import Bcpl.Proofs.Session.Jobs

/-!
Commands whose output finds no room for all of its bytes. It is cut behind the last byte there is
room for, however the bytes are parted in texts (`Output.write_some`), and nothing else of what a
command does changes (`Session.perform_limited`).
-/

namespace Bcpl

namespace Output

/-- The bytes are written as far as there is room, wherever one text ends and the next begins. -/
theorem write_some (room : Nat) (texts : List Text) :
    write (some room) texts =
      ⟨(texts.flatMap Text.bytes).take room, (texts.flatMap Text.bytes).length ≤ room⟩ := by
  induction texts generalizing room with
  | nil => simp [write]
  | cons text rest ih =>
      rw [write, List.flatMap_cons]
      by_cases fits : text.bytes.length ≤ room
      · obtain ⟨left, rfl⟩ := Nat.exists_eq_add_of_le fits
        simp [ih, after, List.take_length_add_append]
      · have short : room ≤ text.bytes.length := Nat.le_of_not_le fits
        simp only [if_neg fits, List.take_append_of_le_length short, List.length_append]
        congr 1
        simp only [Bool.false_eq, decide_eq_false_iff_not]
        omega

end Output

/-- An outcome whose output was cut, beside the one with room for all of it. The bytes are cut in
the same place when they are handed over in other parts. -/
structure Outcome.CutTo (limit : Nat) (whole cut : Outcome) : Prop where
  written : cut.written = whole.written.take limit
  notices : cut.notices = whole.notices
  parted : ∀ parts : List Text, parts.flatMap Text.bytes = whole.written →
    Output.write (some limit) parts = ⟨cut.written, cut.failure ≠ some .outputFull⟩

theorem Outcome.cutTo_ofOutput (limit : Nat) (texts : List Text) (notices : List Notice) :
    let whole := Outcome.ofOutput (.write none texts) notices
    let cut := Outcome.ofOutput (.write (some limit) texts) notices
    whole.CutTo limit cut ∧
      cut.failure = if whole.written.length ≤ limit then none else some .outputFull := by
  intro whole cut
  have all : whole.written = texts.flatMap Text.bytes := by
    simp only [whole, ofOutput, Output.write_none]
  have written : cut.written = whole.written.take limit := by
    rw [all]
    simp only [cut, ofOutput, Output.write_some]
  have failure : cut.failure = if whole.written.length ≤ limit then none else some .outputFull := by
    rw [all]
    simp only [cut, ofOutput, Output.write_some, decide_eq_true_eq]
  refine ⟨⟨written, rfl, fun parts same => ?_⟩, failure⟩
  rw [Output.write_some, same, written, failure]
  split <;> simp_all

namespace Session

/-- With less room a command writes the first bytes of what it writes with room for all, and does
all else as before. Listing tokens and printing a program end well if all bytes find room, and else
fail as the output is full; the session stays as it was. A text that does not parse is refused with
one error, whatever room there is. -/
theorem perform_limited (session : Session) (command : Command) (source : Source) (limit : Nat) :
    let whole := (session.perform command source none).1
    let (cut, after) := session.perform command source (some limit)
    whole.CutTo limit cut ∧
      match command, parse source.text with
      | .parse, .error error =>
          cut.written = [] ∧ cut.failure = some .errorsReported ∧ after = session.reject source error
      | _, _ =>
          cut.failure = (if whole.written.length ≤ limit then none else some .outputFull) ∧
            after = session := by
  cases command with
  | tokens =>
      simp only [perform, listTokens, and_true]
      exact Outcome.cutTo_ofOutput limit _ _
  | parse =>
      cases parsed : parse source.text with
      | ok program =>
          simp only [perform, session.printProgram_of_ok parsed, and_true]
          exact Outcome.cutTo_ofOutput limit _ _
      | error error =>
          simp only [perform, session.printProgram_of_error parsed, and_true]
          refine ⟨List.take_nil.symm, rfl, fun parts same => ?_⟩
          rw [Output.write_some, same]
          simp

/-- A listing that just fits is complete, and with one byte less room it is not. -/
example :
    let source := Source.inline "main.b".toList "X".toList
    (({} : Session).perform .tokens source (some 12)).1.failure = none ∧
      (({} : Session).perform .tokens source (some 11)).1.failure = some .outputFull := by
  decide +kernel

end Session

end Bcpl
