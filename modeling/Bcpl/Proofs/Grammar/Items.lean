import Bcpl.Proofs.Grammar.Completeness
import Bcpl.Proofs.Grammar.Settling

/-!
The items of a program and what is told of them. A row of tokens falls into items, each up to a
token that it does not go on with, and a rest that begins with no such item (`Itemized`,
`Unfinished`). An item accounts for the names and numbers that it is written with.
-/

namespace Bcpl

open Grammar

inductive Item where
  | declared (decl : Decl)
  | defined (definition : Def)
deriving DecidableEq, Repr

/-- Whether a definition ends in values, to which a comma may add more. -/
def Def.endsInValues : Def → Bool
  | .simple _ _ => true
  | .vec _ _ => false
  | .both _ right => right.endsInValues

namespace Item

def event : Item → Event
  | .declared decl => .declaration decl
  | .defined definition => .definition definition

/-- The item that an event tells of. -/
def ofEvent? : Event → Option Item
  | .declaration decl => some (.declared decl)
  | .definition definition => some (.defined definition)
  | _ => none

def addTo (program : Program) : Item → Program
  | .declared decl => program.addDecl decl
  | .defined definition => program.addDef definition

def decl? : Item → Option Decl
  | .declared decl => some decl
  | .defined _ => none

def def? : Item → Option Def
  | .declared _ => none
  | .defined definition => some definition

/-- The lexemes are an item of the grammar. -/
def Derived (lexemes : List Lexeme) : Item → Prop
  | .declared decl => Block lexemes decl
  | .defined definition => Definition lexemes definition

/-- An item goes on with a token of the kind `next` behind it. -/
def GoesOn (next : Kind) : Item → Prop
  | .declared _ => False
  | .defined definition =>
      next = .keyword .and ∨ definition.endsInValues = true ∧ next = .symbol .comma

end Item

/-- A name or a number that is written in a program. -/
inductive Mention where
  | name (text : Text)
  | value (value : Int)
deriving DecidableEq, Repr

def Lexeme.mention? (lexeme : Lexeme) : Option Mention :=
  match lexeme.kind with
  | .name => some (.name lexeme.text)
  | .number => some (.value (decimalValue lexeme.text))
  | _ => none

theorem Lexeme.mention?_of_name {lexeme : Lexeme} (name : lexeme.kind = .name) :
    lexeme.mention? = some (.name lexeme.text) := by
  simp only [mention?, name]

theorem Lexeme.mention?_of_number {lexeme : Lexeme} (number : lexeme.kind = .number) :
    lexeme.mention? = some (.value (decimalValue lexeme.text)) := by
  simp only [mention?, number]

theorem Lexeme.mention?_of_ne {lexeme : Lexeme} (name : lexeme.kind ≠ .name)
    (number : lexeme.kind ≠ .number) : lexeme.mention? = none := by
  unfold mention?
  split
  · contradiction
  · contradiction
  · rfl

/-- The names and numbers among some tokens. -/
def mentions (tokens : List Token) : List Mention := tokens.filterMap (·.mention?)

theorem mentions_concat (tokens : List Token) (last : Token) :
    mentions (tokens ++ [last]) = mentions tokens ++ last.mention?.toList := by
  rw [mentions, List.filterMap_append]
  cases mention : last.mention? <;> simp [mentions, mention]

def Expr.mention : Expr → Mention
  | .const value => .value value

def Entry.mentions (entry : Entry) : List Mention := [.name entry.name, .value entry.value]

def Decl.mentions (decl : Decl) : List Mention := decl.entries.flatMap Entry.mentions

/-- A definition is made of these names and numbers, in this order. It holds all of them, but for
the names behind the first one of a vector, and of these it is warned. -/
inductive Def.AccountsFor : Def → List Mention → List Event → Prop where
  | simple (names : List Text) (values : List Expr) :
      AccountsFor (.simple names values) (names.map .name ++ values.map Expr.mention) []
  | vec (name : Text) (others : List Text) (size : Expr) :
      AccountsFor (.vec name size) ((name :: others).map .name ++ [size.mention])
        (ignoredNames name others)
  | both {left right : Def} {before after : List Mention} {first second : List Event}
      (earlier : left.AccountsFor before first) (later : right.AccountsFor after second) :
      AccountsFor (.both left right) (before ++ after) (first ++ second)

def Item.AccountsFor (mentions : List Mention) (warnings : List Event) : Item → Prop
  | .declared decl => mentions = decl.mentions ∧ warnings = []
  | .defined definition => definition.AccountsFor mentions warnings

/-- An item as it is written, with the warnings that go with it. -/
structure Part where
  item : Item
  tokens : List Token
  warnings : List Event
  derived : item.Derived (tokens.map Token.toLexeme)
  accounts : item.AccountsFor (mentions tokens) warnings

def Part.events (part : Part) : List Event := part.warnings ++ [part.item.event]

/-- Tokens are a row of items, each in front of a token that it does not go on with, and a rest. -/
inductive Itemized : List Token → List Part → List Token → Prop where
  | rest (tokens : List Token) : Itemized tokens [] tokens
  | item (part : Part) {next : Token} {back rest : List Token} {parts : List Part}
      (ends : ¬ part.item.GoesOn next.kind) (behind : Itemized (next :: back) parts rest) :
      Itemized (part.tokens ++ next :: back) (part :: parts) rest

/-- No item at the front of the tokens ends in front of a token that it does not go on with. -/
def Unfinished (tokens : List Token) : Prop :=
  ∀ (item : Item) front next back, tokens = front ++ next :: back →
    item.Derived (front.map Token.toLexeme) → item.GoesOn next.kind

theorem Itemized.eq_append {tokens rest : List Token} {parts : List Part}
    (itemized : Itemized tokens parts rest) : tokens = parts.flatMap Part.tokens ++ rest := by
  induction itemized with
  | rest tokens => rfl
  | item part ends behind ih =>
      rw [List.flatMap_cons, List.append_assoc, ← ih]

theorem Item.ofEvent?_of_isWarning {event : Event} (warning : event.isWarning = true) :
    ofEvent? event = none := by
  cases event with
  | namesIgnored name ignored => rfl
  | _ => contradiction

theorem items_told (report : Report) :
    report.told.events.filterMap Item.ofEvent? = report.events.filterMap Item.ofEvent? := by
  rw [Report.told, List.filterMap_filter]
  refine List.filterMap_congr fun event _ => ?_
  cases event <;> rfl

theorem Item.ofEvent?_event (item : Item) : ofEvent? item.event = some item := by
  cases item <;> rfl

theorem Def.AccountsFor.isWarning {definition : Def} {mentions : List Mention}
    {warnings : List Event} (accounts : definition.AccountsFor mentions warnings) :
    ∀ event ∈ warnings, event.isWarning = true := by
  induction accounts with
  | simple => simp
  | vec name others size => exact fun event => isWarning_of_mem_ignoredNames
  | both earlier later ih ihLater =>
      exact fun event member => (List.mem_append.mp member).elim (ih event) (ihLater event)

theorem Part.isWarning (part : Part) : ∀ event ∈ part.warnings, event.isWarning = true := by
  obtain ⟨item, tokens, warnings, _, accounts⟩ := part
  cases item with
  | declared decl => simp [accounts.2]
  | defined definition => exact accounts.isWarning

theorem items_of_warnings {warnings : List Event}
    (all : ∀ event ∈ warnings, event.isWarning = true) : warnings.filterMap Item.ofEvent? = [] :=
  List.filterMap_eq_nil_iff.mpr fun event member => Item.ofEvent?_of_isWarning (all event member)

/-- The events of some parts tell of their items. -/
theorem items_of_parts (parts : List Part) :
    (parts.flatMap Part.events).filterMap Item.ofEvent? = parts.map Part.item := by
  induction parts with
  | nil => rfl
  | cons part parts ih =>
      rw [List.flatMap_cons, List.filterMap_append, Part.events, List.filterMap_append,
        items_of_warnings part.isWarning, ih]
      simp [Item.ofEvent?_event]

theorem Binding.endsInValues_join (binding : Binding) (definition : Def) :
    (binding.join definition).endsInValues = definition.endsInValues := by
  unfold join
  split <;> rfl

namespace Parser

variable {parser : Parser} {program : Program} {item : Item} {lexemes : List Lexeme}

/-- Any token that the item does not go on with shows it to be complete. -/
def Complete (program : Program) (item : Item) (parser : Parser) : Prop :=
  ∀ next, ¬ item.GoesOn next →
    parser.settle next = .ok ([item.event], ⟨item.addTo program, .item⟩)

/-- Behind a vector even a comma shows that the definition is complete. -/
theorem Defined.settle_of_vector {definition : Def} (defined : Defined program definition parser)
    (vector : definition.endsInValues = false) (next : Kind) :
    parser.settle next = .ok (settleDef program definition next) := by
  have ended := defined .eof (by simp)
  rw [settleDef, if_neg (by simp)] at ended
  obtain ⟨complete, same⟩ := (settles_of_settle ended).of_definition List.mem_cons_self
  obtain ⟨before, position⟩ := parser
  obtain rfl : program = before := by
    obtain ⟨decls, defs⟩ := Program.mk.inj same
    exact congrArg₂ Program.mk decls (List.append_cancel_right defs)
  cases complete with
  | values agree unparted => simp [Binding.endsInValues_join, Def.endsInValues] at vector
  | vector => rfl

theorem leads_item (derived : item.Derived lexemes) :
    Leads ⟨program, .item⟩ lexemes (Complete program item) := by
  have ready : Ready program ⟨program, .item⟩ := fun _ _ _ => ⟨[], rfl⟩
  cases item with
  | declared decl =>
      refine (leads_blockEnd ready derived).imp ?_
      intro _ reached next _
      obtain rfl := reached
      rfl
  | defined definition =>
      refine (leads_definition ready derived).imp fun parser defined next ends => ?_
      obtain ⟨unjoined, unparted⟩ := not_or.mp ends
      have settles : parser.settle next = .ok (settleDef program definition next) := by
        cases values : definition.endsInValues with
        | true => exact defined next fun comma => unparted ⟨values, comma⟩
        | false => exact defined.settle_of_vector values next
      rw [settles, settleDef, if_neg unjoined]
      rfl

end Parser

namespace Item

theorem itemCount_addTo (program : Program) (item : Item) :
    (item.addTo program).itemCount = program.itemCount + 1 := by
  cases item with
  | declared decl => exact program.itemCount_addDecl decl
  | defined definition => exact program.itemCount_addDef definition

theorem isWarning_event (item : Item) : item.event.isWarning = false := by
  cases item <;> rfl

theorem not_goesOn_eof (item : Item) : ¬ item.GoesOn .eof := by
  cases item <;> simp [GoesOn]

variable {item other : Item} {front longer : List Token} {next : Token}

theorem Derived.accepted (derived : item.Derived (front.map Token.toLexeme)) (program : Program) :
    ∃ behind, front.foldlM Parser.accept ⟨program, .item⟩ = .ok behind ∧
      Parser.Complete program item behind :=
  Parser.leads_item derived front rfl

/-- Once a parser has read on behind an item, the item is a part of the program. -/
theorem Derived.itemCount_lt (derived : item.Derived (front.map Token.toLexeme))
    (ends : ¬ item.GoesOn next.kind) {program : Program} {more : List Token} {behind : Parser}
    (accepts : (front ++ next :: more).foldlM Parser.accept ⟨program, .item⟩ = .ok behind) :
    program.itemCount < behind.program.itemCount := by
  obtain ⟨middle, before, complete⟩ := derived.accepted program
  obtain ⟨again, same, after⟩ := foldlM_append_eq_ok_iff.mp accepts
  obtain rfl : again = middle := Except.ok.inj (same.symm.trans before)
  obtain ⟨following, accepted, rest⟩ := foldlM_cons_eq_ok_iff.mp after
  obtain ⟨settled, position, settles, found, rfl⟩ := Parser.exists_of_accept accepted
  cases (complete next.kind ends).symm.trans settles
  have fewer := Parser.acceptAll_itemCount_le rest
  rw [itemCount_addTo] at fewer
  exact fewer

/-- An item that ends in front of a token is no beginning of a longer one. -/
theorem Derived.not_longer (derived : item.Derived (front.map Token.toLexeme))
    (ends : ¬ item.GoesOn next.kind) {more : List Token} :
    ¬ other.Derived ((front ++ next :: more).map Token.toLexeme) := by
  intro longer
  obtain ⟨behind, accepts, complete⟩ := longer.accepted {}
  have more := derived.itemCount_lt ends accepts
  have settles := Parser.settles_of_settle (complete .eof other.not_goesOn_eof)
  have once := settles.itemCount_eq List.mem_cons_self other.isWarning_event
  rw [itemCount_addTo] at once
  omega

theorem Derived.item_eq {lexemes : List Lexeme} (derived : item.Derived lexemes)
    (again : other.Derived lexemes) : item = other := by
  obtain ⟨tokens, rfl⟩ := exists_map_toLexeme_eq lexemes
  obtain ⟨behind, accepts, complete⟩ := derived.accepted {}
  obtain ⟨repeated, acceptsAgain, completeAgain⟩ := again.accepted {}
  obtain rfl : behind = repeated := Except.ok.inj (accepts.symm.trans acceptsAgain)
  have settles := complete .eof item.not_goesOn_eof
  rw [completeAgain .eof other.not_goesOn_eof] at settles
  obtain ⟨told, _⟩ := Prod.mk.inj (Except.ok.inj settles)
  have event : item.event = other.event := (List.singleton_inj.mp told).symm
  exact Option.some.inj (by rw [← ofEvent?_event item, event, ofEvent?_event])

/-- At most one item begins the tokens and ends in front of the next one. -/
theorem Derived.unique {otherFront back otherBack : List Token} {otherNext : Token}
    (derived : item.Derived (front.map Token.toLexeme)) (ends : ¬ item.GoesOn next.kind)
    (again : other.Derived (otherFront.map Token.toLexeme))
    (endsAgain : ¬ other.GoesOn otherNext.kind)
    (same : front ++ next :: back = otherFront ++ otherNext :: otherBack) :
    front = otherFront ∧ item = other := by
  have equal : front = otherFront := by
    rcases List.append_eq_append_iff.mp same with ⟨inside, rfl, rest⟩ | ⟨inside, rfl, rest⟩
    · cases inside with
      | nil => simp
      | cons first more =>
          obtain ⟨rfl, -⟩ := List.cons.inj rest
          exact absurd again (derived.not_longer ends)
    · cases inside with
      | nil => simp
      | cons first more =>
          obtain ⟨rfl, -⟩ := List.cons.inj rest
          exact absurd derived (again.not_longer endsAgain)
  subst equal
  exact ⟨rfl, derived.item_eq again⟩

end Item

/-- Tokens fall into items in one way only. -/
theorem Itemized.unique {tokens rest left : List Token} {parts others : List Part}
    (itemized : Itemized tokens parts rest) (again : Itemized tokens others left)
    (unfinished : Unfinished rest) (unfinishedAgain : Unfinished left) :
    parts.map Part.item = others.map Part.item ∧ rest = left := by
  induction itemized generalizing others with
  | rest tokens =>
      cases again with
      | rest => exact ⟨rfl, rfl⟩
      | item part ends behind => exact absurd (unfinished _ _ _ _ rfl part.derived) ends
  | item part ends behind ih =>
      generalize whole : part.tokens ++ _ :: _ = tokens at again
      cases again with
      | rest => exact absurd (unfinishedAgain _ _ _ _ whole.symm part.derived) ends
      | item other endsAgain behindAgain =>
          obtain ⟨same, items⟩ := part.derived.unique ends other.derived endsAgain whole
          rw [same] at whole
          obtain ⟨rfl, rfl⟩ := List.cons.inj (List.append_cancel_left whole)
          obtain ⟨others, left⟩ := ih behindAgain unfinished
          exact ⟨by rw [List.map_cons, List.map_cons, items, others], left⟩

end Bcpl
