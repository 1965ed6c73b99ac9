import Mathlib.Data.List.Basic
import Bcpl.Proofs.Session.Jobs

/-!
Sessions that are asked for one thing after another: to keep a text, to take a message, or to take
the error in a text that does not parse. Each text gets the next number and keeps it, every message
is kept, and one on texts that are known does not change its looks (`Session.answer_afterRequests`).
-/

namespace Bcpl

/-- What a session can be asked for. The error in a text that does not parse is reported on the
source with the number, whichever text that is. -/
inductive Request where
  | insert (source : Source)
  | report (diagnostic : Diagnostic)
  | check (number : Nat) (text : Text)

inductive Answer where
  | stored (number : Nat)
  | reported (mayGoOn : Bool)
  | parsed (program : Program)

namespace Request

/-- The text that a request adds. -/
def source? : Request → Option Source
  | .insert source => some source
  | .report _ | .check _ _ => none

/-- The message that a request adds. -/
def diagnostic? : Request → Option Diagnostic
  | .insert _ => none
  | .report diagnostic => some diagnostic
  | .check number text =>
      match parse text with
      | .ok _ => none
      | .error error => some (error.diagnostic number)

end Request

namespace Session

def answer (session : Session) : Request → Answer × Session
  | .insert source =>
      let (number, after) := session.addSource source
      (.stored number, after)
  | .report diagnostic =>
      let (mayGoOn, after) := session.report diagnostic
      (.reported mayGoOn, after)
  | .check number text =>
      match parse text with
      | .ok program => (.parsed program, session)
      | .error error =>
          let (mayGoOn, after) := session.report (error.diagnostic number)
          (.reported mayGoOn, after)

def afterRequests (session : Session) (requests : List Request) : Session :=
  requests.foldl (fun session request => (session.answer request).2) session

variable (session : Session)

section Step

theorem sources_answer (request : Request) :
    (session.answer request).2.sources.values =
      session.sources.values ++ request.source?.toList := by
  cases request with
  | insert source => rfl
  | report diagnostic => exact (List.append_nil _).symm
  | check number text =>
      rw [answer]
      split <;> exact (List.append_nil _).symm

theorem reported_answer (request : Request) :
    (session.answer request).2.reported = session.reported ++ request.diagnostic?.toList := by
  cases request with
  | insert source => exact (List.append_nil _).symm
  | report diagnostic => rfl
  | check number text =>
      rw [answer, Request.diagnostic?]
      split
      · exact (List.append_nil _).symm
      · rfl

theorem extends_answer (request : Request) : (session.answer request).2.Extends session :=
  ⟨session.sources_answer request ▸ List.prefix_append _ _,
    session.reported_answer request ▸ List.prefix_append _ _⟩

/-- A session may go on behind a message unless it is an error, and never behind a text that does not
parse. -/
theorem answer_of_diagnostic {request : Request} {diagnostic : Diagnostic}
    (reporting : request.diagnostic? = some diagnostic) :
    (session.answer request).1 = .reported (diagnostic.severity ≠ .error) := by
  have graded (severity : Severity) :
      decide (severity = .warning) = decide (severity ≠ .error) := by
    cases severity <;> rfl
  cases request with
  | insert source => simp [Request.diagnostic?] at reporting
  | report other =>
      obtain rfl : other = diagnostic := Option.some.inj reporting
      exact congrArg Answer.reported (graded other.severity)
  | check number text =>
      cases parsed : parse text with
      | ok program => simp [Request.diagnostic?, parsed] at reporting
      | error error =>
          obtain rfl : error.diagnostic number = diagnostic := by
            simpa [Request.diagnostic?, parsed] using reporting
          rw [answer, parsed]
          rfl

end Step

section Run

variable (requests : List Request)

/-- Where each request adds what it brings with it, a run adds all of that. -/
theorem added_afterRequests {α : Type} (view : Session → List α) {added? : Request → Option α}
    (step : ∀ session request,
      view (answer session request).2 = view session ++ (added? request).toList) :
    view (session.afterRequests requests) = view session ++ requests.filterMap added? := by
  induction requests generalizing session with
  | nil => exact (List.append_nil _).symm
  | cons request rest ih =>
      have behind := ih (session.answer request).2
      rw [step, List.append_assoc] at behind
      rwa [List.filterMap_eq_flatMap_toList, List.flatMap_cons,
        ← List.filterMap_eq_flatMap_toList]

theorem sources_afterRequests :
    (session.afterRequests requests).sources.values =
      session.sources.values ++ requests.filterMap Request.source? :=
  session.added_afterRequests requests (·.sources.values) sources_answer

theorem reported_afterRequests :
    (session.afterRequests requests).reported =
      session.reported ++ requests.filterMap Request.diagnostic? :=
  session.added_afterRequests requests Session.reported reported_answer

theorem extends_afterRequests : (session.afterRequests requests).Extends session :=
  ⟨session.sources_afterRequests requests ▸ List.prefix_append _ _,
    session.reported_afterRequests requests ▸ List.prefix_append _ _⟩

end Run

/-- Behind any requests, the messages are those that were given, in order. The next text gets the
count of the texts before it as its number and is found under it for good, and up to then nothing is
found under this number or a larger one. The session may go on behind a message unless it is an
error, and if all the texts that it is on are there, it is drawn ever after as it was then. -/
theorem answer_afterRequests (done : List Request) :
    let session := ({} : Session).afterRequests done
    let stored := (done.filterMap Request.source?).length
    session.reported = done.filterMap Request.diagnostic? ∧
      (∀ number, stored ≤ number → session.sources.get? number = none) ∧
      (∀ source, let (answer, after) := session.answer (.insert source)
        answer = .stored stored ∧
          ∀ later, (after.afterRequests later).sources.get? stored = some source) ∧
      ∀ request diagnostic, request.diagnostic? = some diagnostic →
        let (answer, after) := session.answer request
        answer = .reported (diagnostic.severity ≠ .error) ∧
          ((∀ snippet ∈ diagnostic.snippets, snippet.source < stored) →
            ∀ later config color, (after.afterRequests later).draw diagnostic config color =
              session.draw diagnostic config color) := by
  intro session stored
  have values : session.sources.values = done.filterMap Request.source? :=
    ({} : Session).sources_afterRequests done
  have counted : session.sources.values.length = stored := congrArg List.length values
  refine ⟨({} : Session).reported_afterRequests done, fun number free => ?_, fun source => ?_,
    fun request diagnostic reporting => ?_⟩
  · exact List.getElem?_eq_none (counted.trans_le free)
  · have added : (session.answer (.insert source)).2.sources.values =
        session.sources.values ++ [source] := session.sources_answer (.insert source)
    have inside : stored < (session.answer (.insert source)).2.sources.values.length := by
      rw [added, List.length_append, counted]
      exact Nat.lt_succ_self stored
    refine ⟨congrArg Answer.stored counted, fun later => ?_⟩
    have kept := ((session.answer (.insert source)).2.extends_afterRequests later).get?_eq inside
    refine kept.trans ?_
    rw [Store.get?, added, ← counted]
    exact List.getElem?_concat_length
  · refine ⟨session.answer_of_diagnostic reporting, fun known later config color => ?_⟩
    have extended := ((session.answer request).2.extends_afterRequests later).trans
      (session.extends_answer request)
    exact extended.draw_eq (fun snippet listed => counted ▸ known snippet listed) config color

/-- A message on a text that is not there yet is drawn in another way once it is. -/
example :
    let message : Diagnostic := ⟨.warning, none, [⟨.primary, [], 0, ⟨0, 3⟩⟩]⟩
    let early := ({} : Session).afterRequests [.report message]
    let late := early.afterRequests [.insert (.inline "main.b".toList "let".toList)]
    early.draw message {} false ≠ late.draw message {} false := by
  decide +kernel

end Session

end Bcpl
