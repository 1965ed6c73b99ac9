import Bcpl.Compiler
import Bcpl.Proofs.Diagnostic.Renumbering
import Bcpl.Proofs.Text.Slice

/-!
Sessions that do one job after another. A job does all of its work or none of it, and neither how it
ends nor what it reports depends on the jobs before it (`Session.work_afterJobs`).
-/

namespace Bcpl

/-- A command and the text it is for. -/
structure Job where
  command : Command
  source : Source
deriving DecidableEq, Repr

/-- The syntax error that a job ends in. -/
def Job.refusal? (job : Job) : Option SyntaxError :=
  match job.command, parse job.source.text with
  | .parse, .error error => some error
  | _, _ => none

def Job.isRefused (job : Job) : Bool := job.refusal?.isSome

theorem Output.write_none (texts : List Text) :
    write none texts = ⟨texts.flatMap Text.bytes, true⟩ := by
  induction texts with
  | nil => rfl
  | cons text rest ih =>
      rw [write, ih]
      rfl

namespace Session

/-- Do a job, with room for all that it writes. -/
def work (session : Session) (job : Job) : Outcome × Session :=
  session.perform job.command job.source none

def afterJobs (session : Session) (jobs : List Job) : Session :=
  jobs.foldl (fun session job => (session.work job).2) session

/-- The messages that a job adds, as they are drawn behind it. -/
def drawAdded (session : Session) (job : Job) (config : Config) (color : Bool) :
    List (Except Fault Text) :=
  let after := (session.work job).2
  (after.reported.drop session.reported.length).map fun diagnostic =>
    after.draw diagnostic config color

/-- A session behind a source with a syntax error in it. -/
def reject (session : Session) (source : Source) (error : SyntaxError) : Session where
  sources := ⟨session.sources.values ++ [source]⟩
  reported := session.reported ++ [error.diagnostic session.sources.values.length]

section Step

variable (session : Session) {job : Job}

theorem printProgram_of_ok {source : Source} {program : Program}
    (parsed : parse source.text = .ok program) (room : Option Nat) :
    session.printProgram source room =
      (.ofOutput (.write room [program.dump.expanded 0, "\n".toList])
        (.parsing source.name :: (parseReport source.text).events.map .event ++
          [.parsed program.decls.length program.defs.length]), session) := by
  have result : (parseReport source.text).result = .ok program := parsed
  simp only [printProgram, result]

theorem printProgram_of_error {source : Source} {error : SyntaxError}
    (parsed : parse source.text = .error error) (room : Option Nat) :
    session.printProgram source room =
      (⟨some .errorsReported, [],
        .parsing source.name :: (parseReport source.text).events.map .event⟩,
        session.reject source error) := by
  have result : (parseReport source.text).result = .error error := parsed
  simp only [printProgram, result]
  rfl

theorem work_of_none (accepted : job.refusal? = none) :
    (session.work job).1.failure = none ∧ (session.work job).2 = session := by
  obtain ⟨command, source⟩ := job
  cases command with
  | tokens => simp [work, perform, listTokens, Outcome.ofOutput, Output.write_none]
  | parse =>
      cases parsed : parse source.text with
      | error error => simp [Job.refusal?, parsed] at accepted
      | ok program =>
          simp [work, perform, session.printProgram_of_ok parsed, Outcome.ofOutput,
            Output.write_none]

theorem work_of_some {error : SyntaxError} (refused : job.refusal? = some error) :
    (session.work job).1.failure = some .errorsReported ∧ (session.work job).1.written = [] ∧
      (session.work job).2 = session.reject job.source error := by
  obtain ⟨command, source⟩ := job
  cases command with
  | tokens => simp [Job.refusal?] at refused
  | parse =>
      cases parsed : parse source.text with
      | ok program => simp [Job.refusal?, parsed] at refused
      | error other =>
          obtain rfl : other = error := by simpa [Job.refusal?, parsed] using refused
          rw [work, perform, session.printProgram_of_error parsed]
          exact ⟨rfl, rfl, rfl⟩

theorem written_of_parsed {source : Source} {program : Program}
    (parsed : parse source.text = .ok program) :
    (session.work ⟨.parse, source⟩).1.written =
      (program.dump.expanded 0 ++ "\n".toList).bytes := by
  simp [work, perform, session.printProgram_of_ok parsed, Outcome.ofOutput, Output.write_none,
    Text.bytes_append]

/-- How a command ends, what it writes and what it notes does not depend on the session. -/
theorem fst_perform (other : Session) (command : Command) (source : Source)
    (room : Option Nat) :
    (session.perform command source room).1 = (other.perform command source room).1 := by
  cases command with
  | tokens => rfl
  | parse =>
      simp only [perform, printProgram]
      split <;> rfl

end Step

/-- Sources keep their numbers, and messages are not taken back. -/
structure Extends (later earlier : Session) : Prop where
  sources : earlier.sources.values <+: later.sources.values
  reported : earlier.reported <+: later.reported

/-- Every region of a message lies in a source of the session. -/
def Knows (session : Session) (diagnostic : Diagnostic) : Prop :=
  ∀ snippet ∈ diagnostic.snippets, snippet.source < session.sources.values.length

section Run

variable {session later : Session}

theorem Extends.refl (session : Session) : session.Extends session :=
  ⟨List.prefix_rfl, List.prefix_rfl⟩

theorem Extends.trans {last : Session} (behind : last.Extends later)
    (extended : later.Extends session) : last.Extends session :=
  ⟨extended.sources.trans behind.sources, extended.reported.trans behind.reported⟩

theorem extends_reject (session : Session) (source : Source) (error : SyntaxError) :
    (session.reject source error).Extends session :=
  ⟨List.prefix_append _ _, List.prefix_append _ _⟩

theorem extends_work (session : Session) (job : Job) : (session.work job).2.Extends session := by
  cases refused : job.refusal? with
  | none =>
      rw [(session.work_of_none refused).2]
      exact .refl session
  | some error =>
      rw [(session.work_of_some refused).2.2]
      exact session.extends_reject job.source error

theorem extends_afterJobs (session : Session) (jobs : List Job) :
    (session.afterJobs jobs).Extends session := by
  induction jobs generalizing session with
  | nil => exact .refl session
  | cons job rest ih => exact (ih (session.work job).2).trans (session.extends_work job)

theorem Extends.get?_eq {key : Nat} (extended : later.Extends session)
    (known : key < session.sources.values.length) :
    later.sources.get? key = session.sources.get? key := by
  obtain ⟨added, same⟩ := extended.sources
  rw [Store.get?, Store.get?, ← same, List.getElem?_append_left known]

theorem Knows.extended {diagnostic : Diagnostic} (known : session.Knows diagnostic)
    (extended : later.Extends session) : later.Knows diagnostic :=
  fun snippet member => Nat.lt_of_lt_of_le (known snippet member) extended.sources.length_le

/-- A message whose sources are known is drawn in the same way in all later sessions. -/
theorem Extends.draw_eq {diagnostic : Diagnostic} (extended : later.Extends session)
    (known : session.Knows diagnostic) (config : Config) (color : Bool) :
    later.draw diagnostic config color = session.draw diagnostic config color := by
  have drawn : (diagnostic.renumber id).draw config later.sources.get? color =
      diagnostic.draw config session.sources.get? color :=
    Diagnostic.draw_renumber Function.injective_id
      (fun snippet member => extended.get?_eq (known snippet member)) config color
  rwa [Diagnostic.renumber_id] at drawn

/-- A session that holds a text for each refused job, and only messages on such texts. -/
structure Counts (session : Session) (refused : Nat) : Prop where
  sources : session.sources.values.length = refused
  known : ∀ diagnostic ∈ session.reported, session.Knows diagnostic

theorem Counts.work {refused : Nat} (counts : session.Counts refused) (job : Job) :
    (session.work job).2.Counts (refused + if job.isRefused then 1 else 0) := by
  cases refusal : job.refusal? with
  | none =>
      rw [(session.work_of_none refusal).2]
      simpa [Job.isRefused, refusal] using counts
  | some error =>
      rw [(session.work_of_some refusal).2.2]
      have length : (session.reject job.source error).sources.values.length = refused + 1 := by
        simp [reject, counts.sources]
      refine ⟨by simpa [Job.isRefused, refusal] using length, fun diagnostic member => ?_⟩
      rcases List.mem_append.mp member with before | added
      · exact (counts.known diagnostic before).extended (session.extends_reject job.source error)
      · obtain rfl := List.mem_singleton.mp added
        intro snippet listed
        obtain rfl := List.mem_singleton.mp listed
        rw [length, ← counts.sources]
        exact Nat.lt_succ_self _

theorem Counts.afterJobs {refused : Nat} (counts : session.Counts refused) (jobs : List Job) :
    (session.afterJobs jobs).Counts (refused + jobs.countP Job.isRefused) := by
  induction jobs generalizing session refused with
  | nil => exact counts
  | cons job rest ih =>
      have behind := ih (counts.work job)
      rw [List.countP_cons]
      rwa [Nat.add_assoc, Nat.add_comm (if job.isRefused then 1 else 0)] at behind

theorem counts_afterJobs (jobs : List Job) :
    (({} : Session).afterJobs jobs).Counts (jobs.countP Job.isRefused) := by
  have fresh : ({} : Session).Counts 0 := ⟨rfl, by simp⟩
  simpa using fresh.afterJobs jobs

end Run

section Reject

variable (session : Session)

theorem get?_reject (source : Source) (error : SyntaxError) :
    (session.reject source error).sources.get? session.sources.values.length = some source := by
  simp [reject, Store.get?]

/-- A message on a syntax error looks the same in every session. -/
theorem draw_reject (source : Source) (error : SyntaxError) (config : Config) (color : Bool) :
    (session.reject source error).draw (error.diagnostic session.sources.values.length) config
        color =
      (({} : Session).reject source error).draw (error.diagnostic 0) config color := by
  have moved : (error.diagnostic 0).renumber (session.sources.values.length + ·) =
      error.diagnostic session.sources.values.length := rfl
  rw [← moved]
  refine Diagnostic.draw_renumber (fun first second same => Nat.add_left_cancel same)
    (fun snippet member => ?_) config color
  obtain rfl := List.mem_singleton.mp member
  exact session.get?_reject source error

theorem drawAdded_of_none {job : Job} (accepted : job.refusal? = none) (config : Config)
    (color : Bool) : session.drawAdded job config color = [] := by
  simp [drawAdded, (session.work_of_none accepted).2]

theorem drawAdded_of_some {job : Job} {error : SyntaxError} (refused : job.refusal? = some error)
    (config : Config) (color : Bool) : session.drawAdded job config color =
      [(({} : Session).reject job.source error).draw (error.diagnostic 0) config color] := by
  have added : (session.reject job.source error).reported.drop session.reported.length =
      [error.diagnostic session.sources.values.length] := List.drop_left
  rw [drawAdded, (session.work_of_some refused).2.2, added, List.map_singleton, draw_reject]

theorem drawAdded_eq (other : Session) (job : Job) (config : Config) (color : Bool) :
    session.drawAdded job config color = other.drawAdded job config color := by
  cases refusal : job.refusal? with
  | none => rw [session.drawAdded_of_none refusal, other.drawAdded_of_none refusal]
  | some error => rw [session.drawAdded_of_some refusal, other.drawAdded_of_some refusal]

end Reject

/-- A job is done as a whole. If it ends well the session stays as it was. If its text is refused
nothing is written, and the session gets the text, under the next number, and one error on it. -/
def AllOrNothing (before : Session) (number : Nat) (job : Job) (outcome : Outcome)
    (after : Session) : Prop :=
  match job.command, parse job.source.text with
  | .tokens, _ => outcome.failure = none ∧ after = before
  | .parse, .ok program =>
      outcome.failure = none ∧
        outcome.written = (program.dump.expanded 0 ++ "\n".toList).bytes ∧ after = before
  | .parse, .error _ =>
      outcome.failure = some .errorsReported ∧ outcome.written = [] ∧
        after.sources.values = before.sources.values ++ [job.source] ∧
        after.sources.get? number = some job.source ∧
        ∃ diagnostic, after.reported = before.reported ++ [diagnostic] ∧
          diagnostic.severity = .error ∧ diagnostic.snippets.map Snippet.source = [number]

theorem Counts.allOrNothing {session : Session} {number : Nat} (counts : session.Counts number)
    (job : Job) :
    session.AllOrNothing number job (session.work job).1 (session.work job).2 := by
  obtain ⟨command, source⟩ := job
  cases command with
  | tokens =>
      have accepted : Job.refusal? ⟨.tokens, source⟩ = none := rfl
      exact session.work_of_none accepted
  | parse =>
      cases parsed : parse source.text with
      | ok program =>
          have accepted : Job.refusal? ⟨.parse, source⟩ = none := by
            simp [Job.refusal?, parsed]
          obtain ⟨ended, unchanged⟩ := session.work_of_none accepted
          simp only [AllOrNothing, parsed]
          exact ⟨ended, session.written_of_parsed parsed, unchanged⟩
      | error error =>
          have refused : Job.refusal? ⟨.parse, source⟩ = some error := by
            simp [Job.refusal?, parsed]
          obtain ⟨failed, silent, rejected⟩ := session.work_of_some refused
          have stored := session.get?_reject source error
          have listed : (session.reject source error).reported =
              session.reported ++ [error.diagnostic session.sources.values.length] := rfl
          rw [counts.sources, ← rejected] at stored listed
          simp only [AllOrNothing, parsed]
          exact ⟨failed, silent, congrArg (·.sources.values) rejected, stored,
            error.diagnostic number, listed, rfl, rfl⟩

/-- Behind any jobs, a job is done as a whole, and a text that is refused gets the number of those
refused before. How the job ends, what it writes and what is drawn of what it reports is as in a new
session, and what was reported before is kept and always drawn as before. -/
theorem work_afterJobs (done : List Job) (job : Job) :
    let session := ({} : Session).afterJobs done
    let (outcome, after) := session.work job
    session.AllOrNothing (done.countP Job.isRefused) job outcome after ∧
      outcome = (({} : Session).work job).1 ∧
      (∀ config color,
        session.drawAdded job config color = ({} : Session).drawAdded job config color) ∧
      ∀ later, session.reported <+: (session.afterJobs later).reported ∧
        ∀ config color, session.reported.map
          (fun diagnostic => (session.afterJobs later).draw diagnostic config color) =
            session.reported.map fun diagnostic => session.draw diagnostic config color := by
  intro session
  have counts := counts_afterJobs done
  refine ⟨counts.allOrNothing job, session.fst_perform {} job.command job.source none,
    session.drawAdded_eq {} job, fun later => ?_⟩
  have extended := session.extends_afterJobs later
  refine ⟨extended.reported, fun config color => ?_⟩
  exact List.map_congr_left fun diagnostic member =>
    extended.draw_eq (counts.known diagnostic member) config color

/-- A text that is refused twice is kept twice, and each of the two errors is on its own copy. -/
example :
    let source := Source.inline "main.b".toList "let".toList
    let once := (({} : Session).perform .parse source none).2
    let twice := (once.perform .parse source none).2
    twice.reported.map (fun diagnostic => diagnostic.snippets.map Snippet.source) = [[0], [1]] := by
  decide +kernel

end Session

end Bcpl
