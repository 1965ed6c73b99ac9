import Bcpl.Proofs.Grammar.ErrorSource
import Bcpl.Proofs.Grammar.Items
import Bcpl.Proofs.Grammar.ViablePrefix

/-!
What a parser tells of a text. It tells of every item when it is complete, and of no other one, and
what the items do not hold of the names and numbers in the text it warns of (`parse_tells_all`).
-/

namespace Bcpl

open Grammar

/-- The definitions in front of the one that a binding belongs to account for these names and
numbers. -/
def LeftAccountsFor (mentions : List Mention) (warnings : List Event) : Option Def → Prop
  | none => mentions = [] ∧ warnings = []
  | some definition => definition.AccountsFor mentions warnings

/-- A definition accounts for these names and numbers up to the last of some values. -/
def Binding.AccountsFor (binding : Binding) (values : List Int) (mentions : List Mention)
    (warnings : List Event) : Prop :=
  ∃ before, LeftAccountsFor before warnings binding.left ∧
    mentions = before ++ (binding.names.map .name ++ values.map .value)

theorem LeftAccountsFor.join {binding : Binding} {definition : Def} {before after : List Mention}
    {first second : List Event} (left : LeftAccountsFor before first binding.left)
    (single : definition.AccountsFor after second) :
    (binding.join definition).AccountsFor (before ++ after) (first ++ second) := by
  unfold Binding.join
  cases joined : binding.left with
  | none =>
      rw [joined] at left
      obtain ⟨rfl, rfl⟩ := left
      exact single
  | some earlier =>
      rw [joined] at left
      exact .both left single

namespace Position

/-- What a parser at a position has read of the item there accounts for these names and numbers, and
the warnings are those that go with it. -/
def AccountsFor (mentions : List Mention) (warnings : List Event) : Position → Prop
  | .item | .opening _ => mentions = [] ∧ warnings = []
  | .entryName _ entries | .entryEnd _ entries =>
      mentions = entries.flatMap Entry.mentions ∧ warnings = []
  | .entryMark _ entries name | .entryValue _ entries name =>
      mentions = entries.flatMap Entry.mentions ++ [.name name] ∧ warnings = []
  | .blockEnd decl => mentions = decl.mentions ∧ warnings = []
  | .firstName left => LeftAccountsFor mentions warnings left
  | .firstMark binding | .nextName binding | .nextMark binding | .body binding
  | .vectorSize binding => binding.AccountsFor [] mentions warnings
  | .value binding values | .valueEnd binding values _ =>
      binding.AccountsFor values mentions warnings
  | .defEnd definition =>
      definition.AccountsFor mentions warnings ∧ definition.endsInValues = false
  | .oversized _ => True

variable {position behind : Position} {token : Token} {mentions : List Mention}
  {warnings : List Event}

theorem accounts_afterNumber {next : Int → Position}
    (fits : (next (decimalValue token.text)).AccountsFor mentions warnings) :
    (afterNumber token next).AccountsFor mentions warnings := by
  simp only [afterNumber, ofDecimal_eq_decimalValue]
  split
  · exact fits
  · trivial

/-- A token adds the name or the number that it is. -/
theorem Step.accounts (step : Step token position behind)
    (accounts : position.AccountsFor mentions warnings) :
    behind.AccountsFor (mentions ++ token.mention?.toList) (warnings ++ position.warnings) := by
  have silent (name : token.kind ≠ .name) (number : token.kind ≠ .number) :
      mentions ++ token.mention?.toList = mentions := by
    rw [Lexeme.mention?_of_ne name number]
    exact List.append_nil mentions
  cases step with
  | block scope kind =>
      cases scope <;> simp only [Position.warnings, List.append_nil] <;>
        rwa [silent (by simp [kind, Scope.kind]) (by simp [kind, Scope.kind])]
  | define kind | bracket kind | semicolon kind | firstComma kind | firstEquals kind
  | nextComma kind | nextEquals kind | vector kind | valueComma kind =>
      simp only [Position.warnings, List.append_nil]
      rwa [silent (by simp [kind]) (by simp [kind])]
  | @close scope entries kind =>
      simp only [Position.warnings, List.append_nil]
      rw [silent (by simp [kind]) (by simp [kind])]
      cases scope <;> exact accounts
  | entryMark kind =>
      simp only [Position.warnings, List.append_nil]
      rcases kind with kind | kind <;> rwa [silent (by simp [kind]) (by simp [kind])]
  | joined kind =>
      simp only [Position.warnings, List.append_nil]
      rw [silent (by simp [kind]) (by simp [kind])]
      exact accounts.1
  | entryName kind =>
      obtain ⟨rfl, rfl⟩ := accounts
      rw [Lexeme.mention?_of_name kind]
      exact ⟨rfl, rfl⟩
  | entryValue kind =>
      obtain ⟨rfl, rfl⟩ := accounts
      rw [Lexeme.mention?_of_number kind]
      exact accounts_afterNumber ⟨by simp [Entry.mentions], rfl⟩
  | firstName kind =>
      simp only [Position.warnings, List.append_nil, Lexeme.mention?_of_name kind]
      exact ⟨mentions, accounts, rfl⟩
  | nextName kind =>
      obtain ⟨before, left, rfl⟩ := accounts
      simp only [Position.warnings, List.append_nil, Lexeme.mention?_of_name kind]
      exact ⟨before, left, by simp [Binding.addName, Binding.names]⟩
  | firstValue kind | value kind =>
      obtain ⟨before, left, rfl⟩ := accounts
      simp only [Position.warnings, List.append_nil, Lexeme.mention?_of_number kind]
      exact accounts_afterNumber ⟨before, left, by simp⟩
  | @size binding kind =>
      obtain ⟨before, left, rfl⟩ := accounts
      rw [Lexeme.mention?_of_number kind]
      refine accounts_afterNumber ⟨?_, binding.endsInValues_join _⟩
      simpa [Binding.names, Expr.mention, Position.warnings] using
        left.join (.vec binding.first.text binding.others (.const (decimalValue token.text)))

section Complete

variable {next : Kind} {definition : Def} (complete : position.Completes next definition)
include complete

theorem Completes.derived {lexemes : List Lexeme} (begun : Begun position lexemes) :
    Definition lexemes definition := by
  cases complete with
  | values agree unparted => exact Valued.definition begun agree
  | vector => exact begun

theorem Completes.accounts (accounts : position.AccountsFor mentions warnings) :
    definition.AccountsFor mentions warnings := by
  cases complete with
  | @values binding values last agree unparted =>
      obtain ⟨before, left, rfl⟩ := accounts
      have same : (values.map Expr.const).map Expr.mention = values.map .value :=
        List.map_map
      rw [← same, ← List.append_nil warnings]
      exact left.join (.simple binding.names (values.map .const))
  | vector => exact accounts.1

theorem Completes.not_goesOn (accounts : position.AccountsFor mentions warnings)
    (unjoined : next ≠ .keyword .and) : ¬ (Item.defined definition).GoesOn next := by
  rintro (joined | ⟨values, comma⟩)
  · exact unjoined joined
  · cases complete with
    | values agree unparted => exact unparted comma
    | vector => exact absurd values (by simp [accounts.2])

end Complete

end Position

namespace Parser

variable {parser behind : Parser} {token : Token} {current tokens : List Token}
  {warned : List Event}

/-- A parser has read the front of an item, and told of nothing there but these warnings. -/
structure Standing (parser : Parser) (current : List Token) (warned : List Event) : Prop where
  begun : Begun parser.position (current.map Token.toLexeme)
  accounts : parser.position.AccountsFor (mentions current) warned
  warnings : ∀ event ∈ warned, event.isWarning = true
  accepts : current.foldlM accept ⟨parser.program, .item⟩ = .ok parser

theorem standing_item (program : Program) : Standing ⟨program, .item⟩ [] [] :=
  ⟨rfl, ⟨rfl, rfl⟩, by simp, rfl⟩

/-- No item is complete in front of a token of the kind `next`. -/
structure Onward (parser : Parser) (current : List Token) (warned : List Event) (next : Kind)
    (events : List Event) (settled : Parser) : Prop where
  kept : settled.program = parser.program
  warnings : ∀ event ∈ events, event.isWarning = true
  between : settled.position = .item → parser.position = .item ∧ events = []
  accepted : ∀ token behind, token.kind = next → parser.accept token = .ok behind →
    Standing behind (current ++ [token]) (warned ++ events)

/-- What is settled in front of the next token is the item there, or none. -/
theorem Standing.settle (standing : Standing parser current warned) {next : Kind}
    {events : List Event} {settled : Parser} (settles : parser.settle next = .ok (events, settled)) :
    (∃ part : Part, part.tokens = current ∧ part.warnings = warned ∧ ¬ part.item.GoesOn next ∧
        events = [part.item.event] ∧ settled = ⟨part.item.addTo parser.program, .item⟩) ∨
      Onward parser current warned next events settled := by
  have onward {settled behind : Parser} {token : Token} {events : List Event}
      (settles : parser.settle token.kind = .ok (events, settled))
      (same : settled.program = parser.program)
      (begun : Begun settled.position (current.map Token.toLexeme))
      (accounts : ∀ position, settled.position.after? token = some position →
        position.AccountsFor (mentions (current ++ [token])) (warned ++ events))
      (warnings : ∀ event ∈ events, event.isWarning = true)
      (accepts : parser.accept token = .ok behind) :
      Standing behind (current ++ [token]) (warned ++ events) := by
    obtain ⟨again, position, repeated, found, rfl⟩ := exists_of_accept accepts
    cases settles.symm.trans repeated
    refine ⟨by simpa using begun.after found, accounts position found, ?_, ?_⟩
    · exact fun event member => (List.mem_append.mp member).elim (standing.warnings event)
        (warnings event)
    · rw [same] at accepts ⊢
      exact foldlM_concat_eq_ok_iff.mpr ⟨parser, standing.accepts, accepts⟩
  cases settles_of_settle settles with
  | onward parser =>
      have warnings (event : Event) := @Position.isWarning_of_mem_warnings parser.position event
      refine .inr ⟨rfl, warnings, fun item => ⟨item, by simp [item, Position.warnings]⟩, ?_⟩
      rintro token behind rfl accepts
      refine onward settles rfl standing.begun (fun position found => ?_) warnings accepts
      rw [mentions_concat]
      exact (Position.step_of_after found).accounts standing.accounts
  | @block program decl =>
      let part : Part := ⟨.declared decl, current, warned, standing.begun, standing.accounts⟩
      exact .inl ⟨part, rfl, rfl, id, rfl, rfl⟩
  | @definition program position definition complete unjoined =>
      let part : Part := ⟨.defined definition, current, warned, complete.derived standing.begun,
        complete.accounts standing.accounts⟩
      exact .inl ⟨part, rfl, rfl, complete.not_goesOn standing.accounts unjoined, rfl, rfl⟩
  | joined complete joined =>
      refine .inr ⟨rfl, by simp, nofun, ?_⟩
      rintro token behind rfl accepts
      refine onward settles rfl (complete.derived standing.begun) (fun position found => ?_)
        (by simp) accepts
      cases Position.step_of_after found with
      | joined kind =>
          rw [mentions_concat, Lexeme.mention?_of_ne (by simp [kind]) (by simp [kind]),
            Option.toList_none, List.append_nil, List.append_nil]
          exact complete.accounts standing.accounts

/-- Where a parser stops without a complete item, the text has none there. -/
theorem Standing.unfinished (standing : Standing parser current warned)
    (kept : ∀ events settled, parser.settle token.kind = .ok (events, settled) →
      settled.program = parser.program)
    (refused : ∀ behind, parser.accept token ≠ .ok behind) (back : List Token) :
    Unfinished (current ++ token :: back) := by
  intro item front next others split derived
  by_contra ends
  obtain ⟨middle, accepts, complete⟩ := derived.accepted parser.program
  have settles := complete next.kind ends
  have more := Item.itemCount_addTo parser.program item
  have apart : front ≠ current := by
    rintro rfl
    obtain ⟨rfl, -⟩ := List.cons.inj (List.append_cancel_left split)
    obtain rfl : middle = parser := Except.ok.inj (accepts.symm.trans standing.accepts)
    have same : item.addTo middle.program = middle.program := kept _ _ settles
    rw [same] at more
    omega
  rcases List.append_eq_append_iff.mp split with ⟨inside, rfl, same⟩ | ⟨inside, rfl, same⟩
  · -- The token would have been accepted.
    obtain ⟨first, inside, rfl⟩ := List.exists_cons_of_ne_nil (l := inside) (by simpa using apart)
    obtain ⟨rfl, -⟩ := List.cons.inj same
    obtain ⟨stopped, before, behind⟩ := foldlM_append_eq_ok_iff.mp accepts
    obtain rfl : stopped = parser := Except.ok.inj (before.symm.trans standing.accepts)
    obtain ⟨next, accepted, _⟩ := foldlM_cons_eq_ok_iff.mp behind
    exact refused next accepted
  · -- The item would have been told of before.
    obtain ⟨first, inside, rfl⟩ := List.exists_cons_of_ne_nil (l := inside) (by simpa using apart)
    obtain ⟨rfl, -⟩ := List.cons.inj same
    exact Nat.lt_irrefl _ (derived.itemCount_lt ends standing.accepts)

theorem Standing.unfinished_of_refused (standing : Standing parser current warned)
    {events : List Event} {settled : Parser}
    (settles : parser.settle token.kind = .ok (events, settled))
    (kept : settled.program = parser.program) (refused : settled.position.after? token = none)
    (back : List Token) : Unfinished (current ++ token :: back) := by
  refine standing.unfinished (fun others again repeated => ?_) (fun behind accepts => ?_) back
  · cases settles.symm.trans repeated
    exact kept
  · obtain ⟨again, position, repeated, found, rfl⟩ := exists_of_accept accepts
    cases settles.symm.trans repeated
    rw [refused] at found
    contradiction

theorem Standing.eq_nil (standing : Standing parser current warned)
    (between : parser.position = .item) : current = [] ∧ warned = [] := by
  have begun := standing.begun
  have accounts := standing.accounts
  rw [between] at begun accounts
  exact ⟨List.map_eq_nil_iff.mp begun, accounts.2⟩

theorem Standing.remembers (standing : Standing parser current warned) (token : Token)
    (back : List Token) : parser.position.Remembers (current ++ token :: back) := by
  refine acceptAll_remembers (fun each member => List.mem_append_left _ member) ?_ standing.accepts
  trivial

end Parser

/-- A report of some tokens behind an item that is told of with some warnings before. -/
def Report.Tells (program : Program) (warned : List Event) (tokens : List Token)
    (report : Report) : Prop :=
  ∃ parts rest pending, Itemized tokens parts rest ∧ Unfinished rest ∧
    warned ++ report.events = parts.flatMap Part.events ++ pending ∧
    (∀ event ∈ pending, event.isWarning = true) ∧
    (∀ result, report.result = .ok result →
      (∃ last, rest = [last] ∧ last.kind = .eof) ∧ pending = [] ∧
        result = (parts.map Part.item).foldl Item.addTo program) ∧
    ∀ error, report.result = .error error → error.Arises rest

theorem Report.Tells.after {program : Program} {warned events : List Event} {tokens : List Token}
    {report : Report} (tells : report.Tells program (warned ++ events) tokens) :
    (report.after events).Tells program warned tokens := by
  unfold Tells at tells
  rw [List.append_assoc] at tells
  exact tells

/-- Behind an item tokens are told of as by a parser that begins there. -/
theorem Report.Tells.item {program : Program} {part : Part} {next : Token} {back : List Token}
    {report : Report} (ends : ¬ part.item.GoesOn next.kind)
    (tells : report.Tells (part.item.addTo program) [] (next :: back)) :
    (report.after [part.item.event]).Tells program part.warnings (part.tokens ++ next :: back) := by
  obtain ⟨parts, rest, pending, itemized, unfinished, told, outcome⟩ := tells
  refine ⟨part :: parts, rest, pending, .item part ends itemized, unfinished, ?_, outcome⟩
  rw [List.nil_append] at told
  simp only [Report.after, told, List.flatMap_cons, Part.events, List.append_assoc]

namespace Parser

variable {parser : Parser} {token : Token} {current back : List Token} {warned : List Event}
  {onward : Parser → Report}

theorem tell_of_item {program : Program} {events : List Event}
    (settles : parser.settle token.kind = .ok (events, ⟨program, .item⟩)) :
    parser.tell token onward = (tell ⟨program, .item⟩ token onward).after events := by
  have idle : settle ⟨program, .item⟩ token.kind = .ok ([], ⟨program, .item⟩) := rfl
  simp only [tell, settles, idle]
  split
  · simp only [Report.after, List.append_nil]
  · split <;> simp only [Report.after, List.append_nil, List.nil_append]

theorem Standing.stops (standing : Standing parser current warned) {events : List Event}
    {error : SyntaxError} (warnings : ∀ event ∈ events, event.isWarning = true)
    (unfinished : Unfinished (current ++ token :: back))
    (arises : error.Arises (current ++ token :: back)) :
    Report.Tells parser.program warned (current ++ token :: back) ⟨events, .error error⟩ := by
  refine ⟨[], _, warned ++ events, .rest _, unfinished, rfl, ?_, nofun, ?_⟩
  · exact fun event member => (List.mem_append.mp member).elim (standing.warnings event)
      (warnings event)
  · intro other same
    obtain rfl := Except.error.inj same
    exact arises

/-- Where no item is complete in front of a token, it ends the run or goes on with the item. -/
theorem Standing.tells_onward (standing : Standing parser current warned)
    {events : List Event} {settled : Parser}
    (settles : parser.settle token.kind = .ok (events, settled))
    (undone : Onward parser current warned token.kind events settled)
    (final : token.kind = .eof → back = [])
    (following : token.kind ≠ .eof → ∀ behind current warned, Standing behind current warned →
      Report.Tells behind.program warned (current ++ back) (onward behind)) :
    Report.Tells parser.program warned (current ++ token :: back) (parser.tell token onward) := by
  have refusal (refused : settled.position.after? token = none) :
      Report.Tells parser.program warned (current ++ token :: back)
        ⟨events, .error (token.refusal settled.position.expectation)⟩ :=
    standing.stops undone.warnings
      (standing.unfinished_of_refused settles undone.kept refused back) (.refused (by simp) _)
  simp only [tell, settles]
  by_cases ended : token.kind = .eof
  · have refused : settled.position.after? token = none := Position.after?_of_eof ended
    rw [if_pos ended, close]
    split
    · next item =>
        have unfinished := standing.unfinished_of_refused settles undone.kept refused back
        obtain ⟨here, rfl⟩ := undone.between item
        obtain ⟨rfl, rfl⟩ := standing.eq_nil here
        obtain rfl := final ended
        refine ⟨[], [token], [], .rest _, unfinished, rfl, by simp, fun result same => ?_,
          fun error same => ?_⟩
        · obtain rfl := Except.ok.inj same
          exact ⟨⟨token, rfl, ended⟩, rfl, undone.kept⟩
        · contradiction
    · exact refusal refused
  · rw [if_neg ended]
    cases reads : settled.read token with
    | error error =>
        obtain ⟨refused, rfl⟩ := read_eq_error_iff.mp reads
        exact refusal refused
    | ok behind =>
        have accepts : parser.accept token = .ok behind :=
          bind_eq_ok_iff.mpr ⟨_, settles, reads⟩
        obtain ⟨position, _, rfl⟩ := read_eq_ok_iff.mp reads
        have told := following ended _ _ _ (undone.accepted token _ rfl accepts)
        rw [undone.kept, List.append_assoc] at told
        rw [undone.kept]
        exact told.after

/-- A token shows the item in front of it to be complete, or it goes on with it, or it ends the
run. -/
theorem Standing.tells_tell (standing : Standing parser current warned)
    (final : token.kind = .eof → back = [])
    (following : token.kind ≠ .eof → ∀ behind current warned, Standing behind current warned →
      Report.Tells behind.program warned (current ++ back) (onward behind)) :
    Report.Tells parser.program warned (current ++ token :: back) (parser.tell token onward) := by
  cases settles : parser.settle token.kind with
  | error error =>
      have unaccepted (behind : Parser) : parser.accept token ≠ .ok behind := by
        intro accepts
        obtain ⟨settled, position, repeated, _⟩ := exists_of_accept accepts
        cases settles.symm.trans repeated
      simp only [tell, settles]
      refine standing.stops (by simp) (standing.unfinished (fun events settled repeated => ?_)
        unaccepted back) (settle_arises (standing.remembers token back) settles)
      cases settles.symm.trans repeated
  | ok result =>
      obtain ⟨events, settled⟩ := result
      rcases standing.settle settles with ⟨part, rfl, rfl, ends, rfl, rfl⟩ | undone
      · -- What follows the item is told of as by a parser that has read nothing of it.
        have begins := standing_item (part.item.addTo parser.program)
        have idle : Parser.settle ⟨part.item.addTo parser.program, .item⟩ token.kind =
          .ok ([], ⟨part.item.addTo parser.program, .item⟩) := rfl
        have undone := (begins.settle idle).resolve_left (by simp)
        rw [tell_of_item settles]
        exact .item ends (begins.tells_onward idle undone final following)
      · exact standing.tells_onward settles undone final following

theorem Standing.tells_run {front : List Token} {last : Token} (ended : last.kind = .eof)
    (significant : ∀ token ∈ front, token.kind ≠ .comment ∧ token.kind ≠ .eof)
    (standing : Standing parser current warned) :
    Report.Tells parser.program warned (current ++ (front ++ [last]))
      (run parser (front ++ [last])).told := by
  induction front generalizing parser current warned with
  | nil =>
      rw [List.nil_append, told_run_of_token parser [last] (by simp [TokenSource.next, ended])]
      exact standing.tells_tell (fun _ => rfl) fun unfinished => absurd ended unfinished
  | cons token front ih =>
      obtain ⟨⟨plain, unfinished⟩, others⟩ := List.forall_mem_cons.mp significant
      rw [List.cons_append, told_run_of_token parser (token :: (front ++ [last])) plain]
      exact standing.tells_tell (fun ended => absurd ended unfinished)
        fun _ behind current warned standing => ih others standing

end Parser

theorem Item.decls_addTo (items : List Item) (program : Program) :
    (items.foldl addTo program).decls = program.decls ++ items.filterMap decl? := by
  induction items generalizing program with
  | nil => simp
  | cons item items ih =>
      rw [List.foldl_cons, ih]
      cases item <;> simp [addTo, decl?, Program.addDecl, Program.addDef, List.filterMap_cons]

theorem Item.defs_addTo (items : List Item) (program : Program) :
    (items.foldl addTo program).defs = program.defs ++ items.filterMap def? := by
  induction items generalizing program with
  | nil => simp
  | cons item items ih =>
      rw [List.foldl_cons, ih]
      cases item <;> simp [addTo, def?, Program.addDecl, Program.addDef, List.filterMap_cons]

theorem mentions_plainTokens (text : Text) : mentions (plainTokens text) = mentions (lex text) := by
  rw [mentions, plainTokens, List.filterMap_filter]
  refine List.filterMap_congr fun token _ => ?_
  split
  · rfl
  · next comment =>
      have kind : token.kind = .comment := by simpa using comment
      rw [Lexeme.mention?_of_ne (by simp [kind]) (by simp [kind])]

/-- Nothing in a text is dropped silently. There is one way to take a text apart into items and a
rest that begins with none. These items are told of in their order, each behind the warnings of what
it does not hold, and no others are. If the text is parsed, they are the program and account for all
the names and numbers in the text, and if not, the error is in the rest. -/
theorem parse_tells_all (text : Text) :
    ∃ parts rest pending, Itemized (plainTokens text) parts rest ∧ Unfinished rest ∧
      (∀ others left, Itemized (plainTokens text) others left → Unfinished left →
        others.map Part.item = parts.map Part.item ∧ left = rest) ∧
      (parseReport text).events.filterMap Item.ofEvent? = parts.map Part.item ∧
      (parseReport text).told.events = parts.flatMap Part.events ++ pending ∧
      (∀ event ∈ pending, event.isWarning = true) ∧
      (∀ program, parse text = .ok program →
        (∃ last, rest = [last] ∧ last.kind = .eof) ∧ pending = [] ∧
          program.decls = (parts.map Part.item).filterMap Item.decl? ∧
          program.defs = (parts.map Part.item).filterMap Item.def? ∧
          mentions (lex text) = parts.flatMap fun part => mentions part.tokens) ∧
      ∀ error, parse text = .error error → error.Arises rest := by
  obtain ⟨split, unended⟩ := plainTokens_eq text
  have ended : (⟨⟨.eof, []⟩, Span.empty text.size⟩ : Token).kind = .eof := rfl
  have tells := (Parser.standing_item {}).tells_run ended fun token member =>
    ⟨ne_comment_of_mem_significantTokens member, unended token member⟩
  rw [List.nil_append, ← split, ← told_parseReport] at tells
  obtain ⟨parts, rest, pending, itemized, unfinished, told, warnings, parsed, failed⟩ := tells
  rw [List.nil_append] at told
  refine ⟨parts, rest, pending, itemized, unfinished,
    fun others left again stays => again.unique itemized stays unfinished, ?_, told, warnings, ?_,
    failed⟩
  · rw [← items_told, told, List.filterMap_append, items_of_parts, items_of_warnings warnings,
      List.append_nil]
  · intro program same
    obtain ⟨⟨last, rfl, final⟩, rfl, rfl⟩ := parsed program same
    refine ⟨⟨last, rfl, final⟩, rfl, Item.decls_addTo _ {}, Item.defs_addTo _ {}, ?_⟩
    rw [← mentions_plainTokens, itemized.eq_append, mentions_concat,
      Lexeme.mention?_of_ne (by simp [final]) (by simp [final]), Option.toList_none,
      List.append_nil]
    exact List.filterMap_flatMap

/-- A comma cannot go on with a vector. It is told of with the warning, and then the comma is
refused. -/
example :
    (parseReport "let A, B = vec 10, 5".toList).events =
      [.namesIgnored "A".toList 1, .definition (.vec "A".toList (.const 10))] := by
  decide +kernel

end Bcpl
