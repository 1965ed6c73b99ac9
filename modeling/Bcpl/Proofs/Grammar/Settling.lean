import Bcpl.Proofs.Grammar.FirstError

/-!
What a token shows to be complete, and what is told of it. `Parser.Settles` lists all that settling
can do. A run on the tokens of a lexer tells the same as one on the list of those tokens without the
comments, but for the tokens that were inserted (`told_parseReport`).
-/

namespace Bcpl

/-- A warning about the names behind the first one of a vector, if there are any. -/
def ignoredNames (name : Text) (others : List Text) : List Event :=
  if others.isEmpty then [] else [.namesIgnored name others.length]

def Event.isInserted : Event → Bool
  | .inserted _ _ => true
  | _ => false

def Event.isWarning : Event → Bool
  | .namesIgnored _ _ => true
  | _ => false

theorem isWarning_of_mem_ignoredNames {name : Text} {others : List Text} {event : Event}
    (member : event ∈ ignoredNames name others) : event.isWarning = true := by
  unfold ignoredNames at member
  split at member
  · contradiction
  · rw [List.mem_singleton.mp member]
    rfl

/-- A report without the tokens that were inserted. -/
def Report.told (report : Report) : Report :=
  { report with events := report.events.filter (!·.isInserted) }

namespace Program

def itemCount (program : Program) : Nat := program.decls.length + program.defs.length

theorem itemCount_addDecl (program : Program) (decl : Decl) :
    (program.addDecl decl).itemCount = program.itemCount + 1 := by
  simp only [itemCount, addDecl, List.length_append, List.length_singleton]
  omega

theorem itemCount_addDef (program : Program) (definition : Def) :
    (program.addDef definition).itemCount = program.itemCount + 1 := by
  simp only [itemCount, addDef, List.length_append, List.length_singleton]
  omega

end Program

namespace Position

/-- The warnings at a position. -/
def warnings : Position → List Event
  | .vectorSize binding => ignoredNames binding.first.text binding.others
  | _ => []

/-- A definition is complete in front of a token of the kind `next`, unless `and` follows. -/
inductive Completes (next : Kind) : Position → Def → Prop where
  | values {binding : Binding} {values : List Int} {last : Span}
      (agree : binding.names.length = values.length) (unparted : next ≠ .symbol .comma) :
      Completes next (.valueEnd binding values last)
        (binding.join (.simple binding.names (values.map .const)))
  | vector (definition : Def) : Completes next (.defEnd definition) definition

theorem isWarning_of_mem_warnings {position : Position} {event : Event}
    (member : event ∈ position.warnings) : event.isWarning = true := by
  unfold warnings at member
  split at member
  · exact isWarning_of_mem_ignoredNames member
  · contradiction

end Position

namespace Parser

/-- A token of the kind `next` settles what is complete at a parser. -/
inductive Settles (next : Kind) : Parser → List Event → Parser → Prop where
  | onward (parser : Parser) : Settles next parser parser.position.warnings parser
  | block {program : Program} {decl : Decl} :
      Settles next ⟨program, .blockEnd decl⟩ [.declaration decl] ⟨program.addDecl decl, .item⟩
  | definition {program : Program} {position : Position} {definition : Def}
      (complete : position.Completes next definition) (unjoined : next ≠ .keyword .and) :
      Settles next ⟨program, position⟩ [.definition definition] ⟨program.addDef definition, .item⟩
  | joined {program : Program} {position : Position} {definition : Def}
      (complete : position.Completes next definition) (joined : next = .keyword .and) :
      Settles next ⟨program, position⟩ [] ⟨program, .defEnd definition⟩

variable {parser behind : Parser} {next : Kind} {events : List Event} {settled : Parser}

theorem settles_of_completes {program : Program} {position : Position} {definition : Def}
    (complete : position.Completes next definition)
    (same : settleDef program definition next = (events, settled)) :
    Settles next ⟨program, position⟩ events settled := by
  unfold settleDef at same
  split at same <;> cases same
  · next joined => exact .joined complete joined
  · next unjoined => exact .definition complete unjoined

theorem settles_of_settle (settles : parser.settle next = .ok (events, settled)) :
    Settles next parser events settled := by
  obtain ⟨program, position⟩ := parser
  unfold settle at settles
  cases position with
  | blockEnd decl =>
      cases settles
      exact .block
  | vectorSize binding =>
      have warned : events = ignoredNames binding.first.text binding.others ∧
          settled = ⟨program, .vectorSize binding⟩ := by
        simp only [ignoredNames] at settles ⊢
        split at settles <;> cases settles <;> simp_all
      obtain ⟨rfl, rfl⟩ := warned
      exact .onward ⟨program, .vectorSize binding⟩
  | valueEnd binding values last =>
      simp only at settles
      split at settles
      · cases settles
        exact .onward ⟨program, .valueEnd binding values last⟩
      · next unparted =>
          split at settles
          · next agree =>
              exact settles_of_completes (.values agree unparted) (Except.ok.inj settles)
          · contradiction
  | defEnd definition => exact settles_of_completes (.vector definition) (Except.ok.inj settles)
  | oversized number => contradiction
  | _ =>
      cases settles
      exact .onward _

theorem Settles.not_inserted (settles : Settles next parser events settled) :
    ∀ event ∈ events, event.isInserted = false := by
  cases settles with
  | onward parser =>
      intro event member
      have warning := Position.isWarning_of_mem_warnings member
      cases event <;> first | rfl | contradiction
  | block | definition => simp [Event.isInserted]
  | joined => simp

/-- Where a definition is told of, it was complete and is now part of the program. -/
theorem Settles.of_definition {definition : Def} (settles : Settles next parser events settled)
    (told : .definition definition ∈ events) :
    parser.position.Completes next definition ∧
      settled.program = parser.program.addDef definition := by
  cases settles with
  | onward parser =>
      have warning := Position.isWarning_of_mem_warnings told
      contradiction
  | block => simp at told
  | definition complete unjoined =>
      cases List.mem_singleton.mp told
      exact ⟨complete, rfl⟩
  | joined => contradiction

theorem Settles.told (settles : Settles next parser events settled) :
    events.filter (!·.isInserted) = events :=
  List.filter_eq_self.mpr fun event member => by simp [settles.not_inserted event member]

theorem Settles.itemCount_le (settles : Settles next parser events settled) :
    parser.program.itemCount ≤ settled.program.itemCount := by
  cases settles with
  | onward | joined => exact Nat.le_refl _
  | block => exact (Nat.le_succ _).trans_eq (Program.itemCount_addDecl _ _).symm
  | definition => exact (Nat.le_succ _).trans_eq (Program.itemCount_addDef _ _).symm

/-- Where more than a warning is told, an item has become a part of the program. -/
theorem Settles.itemCount_eq (settles : Settles next parser events settled) {event : Event}
    (told : event ∈ events) (unwarned : event.isWarning = false) :
    settled.program.itemCount = parser.program.itemCount + 1 := by
  cases settles with
  | onward => simp [Position.isWarning_of_mem_warnings told] at unwarned
  | joined => contradiction
  | block => exact Program.itemCount_addDecl _ _
  | definition => exact Program.itemCount_addDef _ _

theorem acceptAll_itemCount_le {tokens : List Token}
    (accepts : tokens.foldlM accept parser = .ok behind) :
    parser.program.itemCount ≤ behind.program.itemCount := by
  induction tokens generalizing parser with
  | nil =>
      cases accepts
      exact Nat.le_refl _
  | cons token rest ih =>
      obtain ⟨next, accepted, accepts⟩ := foldlM_cons_eq_ok_iff.mp accepts
      obtain ⟨⟨events, settled⟩, position, settles, found, rfl⟩ := exists_of_accept accepted
      have more := ih accepts
      exact (settles_of_settle settles).itemCount_le.trans more

/-- What is told at a token, and behind it if it is read. -/
def tell (parser : Parser) (token : Token) (behind : Parser → Report) : Report :=
  match parser.settle token.kind with
  | .error error => ⟨[], .error error⟩
  | .ok (events, settled) =>
      if token.kind = .eof then ⟨events, settled.close token⟩
      else
        match settled.read token with
        | .error error => ⟨events, .error error⟩
        | .ok next => (behind next).after events

theorem tell_of_eof {parser : Parser} {token : Token} (ended : token.kind = .eof)
    (first second : Parser → Report) : parser.tell token first = parser.tell token second := by
  simp only [tell, if_pos ended]

theorem told_after (events : List Event) (report : Report) :
    (report.after events).told = report.told.after (events.filter (!·.isInserted)) := by
  simp only [Report.told, Report.after, List.filter_append]

theorem insertion_told (token : Token) (before : Option Token) :
    (insertion token before).filter (!·.isInserted) = [] := by
  cases before <;> rfl

section Source

variable {σ : Type} [TokenSource σ] (parser : Parser) (source : σ)

theorem told_run_of_comment (comment : (TokenSource.next source).1.kind = .comment) :
    (run parser source).told = (run parser (TokenSource.next source).2).told := by
  rw [run]
  simp only [comment, if_true, told_after, insertion_told]
  rfl

theorem told_run_of_token (significant : (TokenSource.next source).1.kind ≠ .comment) :
    (run parser source).told =
      parser.tell (TokenSource.next source).1 fun behind =>
        (run behind (TokenSource.next source).2).told := by
  rw [run, tell]
  simp only [if_neg significant]
  cases settles : parser.settle (TokenSource.next source).1.kind with
  | error error => simp only [Report.told, insertion_told]
  | ok result =>
      obtain ⟨events, settled⟩ := result
      have told := (settles_of_settle settles).told
      by_cases ended : (TokenSource.next source).1.kind = .eof
      · simp only [if_pos ended, Report.told, List.filter_append, insertion_told, told,
          List.nil_append]
      · simp only [if_neg ended]
        cases settled.read (TokenSource.next source).1 with
        | error error =>
            simp only [Report.told, List.filter_append, insertion_told, told, List.nil_append]
        | ok behind =>
            simp only [told_after, List.filter_append, insertion_told, told, List.nil_append]

end Source

/-- What is told of the tokens of a lexer is what is told of the list of those that are no
comments. -/
theorem told_run_tokens (parser : Parser) (lexer : Lexer) :
    (run parser lexer).told = (run parser (lexer.tokens.filter (·.kind ≠ .comment))).told := by
  fun_induction Lexer.tokens lexer generalizing parser with
  | case1 lexer step ended =>
      have significant : step.1.kind ≠ .comment := by simp [ended]
      rw [told_run_of_token parser lexer significant, List.filter_cons_of_pos (by simp [ended]),
        told_run_of_token parser (step.1 :: _) significant]
      exact tell_of_eof ended _ _
  | case2 lexer step unfinished ih =>
      by_cases comment : step.1.kind = .comment
      · rw [told_run_of_comment parser lexer comment, List.filter_cons_of_neg (by simp [comment])]
        exact ih parser
      · rw [told_run_of_token parser lexer comment, List.filter_cons_of_pos (by simp [comment]),
          told_run_of_token parser (step.1 :: _) comment]
        exact congrArg _ (funext ih)

end Parser

theorem told_parseReport (text : Text) :
    (parseReport text).told = (Parser.run {} (plainTokens text)).told :=
  Parser.told_run_tokens {} (Lexer.ofText text)

end Bcpl
