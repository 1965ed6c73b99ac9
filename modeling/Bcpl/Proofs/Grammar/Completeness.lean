import Bcpl.Proofs.Grammar.Soundness

/-!
A parser accepts every program of the grammar. Each rule leads it from where the rule may start to
where what the rule stands for is complete, whatever token comes next.
-/

namespace Bcpl

open Grammar

namespace Parser

/-- A parser accepts some lexemes, wherever they stand, and is then as required. -/
def Leads (parser : Parser) (lexemes : List Lexeme) (goal : Parser → Prop) : Prop :=
  ∀ tokens : List Token, tokens.map Token.toLexeme = lexemes →
    ∃ behind, tokens.foldlM accept parser = .ok behind ∧ goal behind

/-- Any item or the end of the file shows what the parser has read to be a complete program. -/
def Ready (program : Program) (parser : Parser) : Prop :=
  ∀ next, next ≠ .symbol .comma → next ≠ .keyword .and →
    ∃ events, parser.settle next = .ok (events, ⟨program, .item⟩)

/-- Behind a definition that further definitions may be joined to. -/
def Defined (program : Program) (definition : Def) (parser : Parser) : Prop :=
  ∀ next, next ≠ .symbol .comma → parser.settle next = .ok (settleDef program definition next)

/-- Behind the names on the left side of a definition. -/
def AtMark (program : Program) (left : Option Def) (names : List Text) (parser : Parser) : Prop :=
  ∃ binding : Binding, binding.left = left ∧ binding.names = names ∧
    (parser = ⟨program, .firstMark binding⟩ ∨ parser = ⟨program, .nextMark binding⟩)

variable {parser behind : Parser} {program : Program} {goal : Parser → Prop} {lexemes : List Lexeme}

theorem accept_eq {settled : Parser} {events : List Event} {token : Token} {position : Position}
    (settles : parser.settle token.kind = .ok (events, settled))
    (found : settled.position.after? token = some position) :
    parser.accept token = .ok ⟨settled.program, position⟩ := by
  simp only [accept, settles, bind, Except.bind, read, found]

theorem Leads.nil (reached : goal parser) : parser.Leads [] goal := by
  intro tokens same
  obtain rfl := List.map_eq_nil_iff.mp same
  exact ⟨parser, rfl, reached⟩

theorem Leads.cons {lexeme : Lexeme}
    (first : ∀ token : Token, token.toLexeme = lexeme →
      ∃ next, parser.accept token = .ok next ∧ next.Leads lexemes goal) :
    parser.Leads (lexeme :: lexemes) goal := by
  intro tokens same
  obtain ⟨token, others, rfl, rfl, rest⟩ := List.map_eq_cons_iff.mp same
  obtain ⟨next, accepted, leads⟩ := first token rfl
  obtain ⟨behind, accepts, reached⟩ := leads others rest
  exact ⟨behind, foldlM_cons_eq_ok_iff.mpr ⟨next, accepted, accepts⟩, reached⟩

theorem Leads.append {middle : Parser → Prop} {following : List Lexeme}
    (first : parser.Leads lexemes middle)
    (second : ∀ next, middle next → next.Leads following goal) :
    parser.Leads (lexemes ++ following) goal := by
  intro tokens same
  obtain ⟨front, back, rfl, frontSame, backSame⟩ := List.map_eq_append_iff.mp same
  obtain ⟨next, accepted, halfway⟩ := first front frontSame
  obtain ⟨behind, accepts, reached⟩ := second next halfway back backSame
  exact ⟨behind, foldlM_append_eq_ok_iff.mpr ⟨next, accepted, accepts⟩, reached⟩

theorem Leads.imp {weaker : Parser → Prop} (leads : parser.Leads lexemes goal)
    (implies : ∀ behind, goal behind → weaker behind) : parser.Leads lexemes weaker := by
  intro tokens same
  obtain ⟨behind, accepts, reached⟩ := leads tokens same
  exact ⟨behind, accepts, implies behind reached⟩

theorem Leads.token {settled : Parser} {events : List Event} {lexeme : Lexeme}
    (settles : parser.settle lexeme.kind = .ok (events, settled))
    (found : ∀ token : Token, token.toLexeme = lexeme →
      ∃ position, settled.position.after? token = some position ∧
        Leads ⟨settled.program, position⟩ lexemes goal) :
    parser.Leads (lexeme :: lexemes) goal := by
  refine .cons fun token same => ?_
  obtain ⟨position, after, leads⟩ := found token same
  rw [← same] at settles
  exact ⟨_, accept_eq settles after, leads⟩

theorem Leads.number {settled : Parser} {events : List Event} {value : Int}
    (next : Token → Int → Position) (numbered : Number lexemes value)
    (settles : parser.settle .number = .ok (events, settled))
    (found : ∀ token : Token, token.kind = .number →
      settled.position.after? token = some (Position.afterNumber token (next token)))
    (reached : ∀ token, goal ⟨settled.program, next token value⟩) : parser.Leads lexemes goal := by
  obtain ⟨kind, fits⟩ := numbered
  rw [← kind] at settles
  refine .token settles fun token same => ⟨_, found token (by rw [same, kind]), ?_⟩
  have fitting : Position.afterNumber token (next token) =
      next token (decimalValue token.text) := by
    simp only [Position.afterNumber, ofDecimal_eq_decimalValue]
    exact if_pos (by rw [same]; exact fits)
  rw [fitting, same]
  exact .nil (reached token)

section Blocks

variable {scope : Scope} {entries : List Entry}

theorem leads_declaration {entry : Entry} (declared : Declaration lexemes entry) :
    Leads ⟨program, .entryName scope entries⟩ lexemes
      (· = ⟨program, .entryEnd scope (entries ++ [entry])⟩) := by
  obtain ⟨named, marked, numbered⟩ := declared
  refine .token rfl fun name nameSame => ⟨_, if_pos (by rw [nameSame, named]), ?_⟩
  refine .token rfl fun mark markSame => ⟨_, if_pos (by rw [markSame]; exact marked), ?_⟩
  refine .number (fun _ value => .entryEnd scope (entries ++ [Entry.mk name.text value])) numbered
    rfl (fun number kind => if_pos kind) fun _ => ?_
  rw [nameSame]

theorem leads_entries (inside : Separated Declaration (.symbol .semicolon) lexemes entries) :
    Leads ⟨program, .entryName scope []⟩ lexemes (· = ⟨program, .entryEnd scope entries⟩) := by
  induction inside with
  | one declared => exact leads_declaration declared
  | more earlier parted declared ih =>
      refine ih.append ?_
      intro _ reached
      obtain rfl := reached
      refine .token rfl fun semicolon same => ⟨_, if_pos (by rw [same, parted]), ?_⟩
      exact leads_declaration declared

theorem leads_section (body : Section lexemes entries) :
    Leads ⟨program, .opening scope⟩ lexemes (· = ⟨program, .blockEnd (scope.decl entries)⟩) := by
  obtain ⟨opened, inside, closed⟩ := body
  refine Leads.append (.token rfl fun opening same => ⟨_, if_pos (by rw [same, opened]),
    leads_entries inside⟩) ?_
  intro _ reached
  obtain rfl := reached
  refine .token rfl fun closing same => ⟨.blockEnd (scope.decl entries), ?_, .nil rfl⟩
  simp [Position.after?, same, closed]

theorem leads_blockEnd {decl : Decl} (ready : Ready program parser) (block : Block lexemes decl) :
    parser.Leads lexemes (· = ⟨program, .blockEnd decl⟩) := by
  have opens (scope : Scope) {word : Lexeme} {inside : List Lexeme} {entries : List Entry}
      (reserved : word.kind = scope.kind) (body : Section inside entries) :
      parser.Leads (word :: inside) (· = ⟨program, .blockEnd (scope.decl entries)⟩) := by
    obtain ⟨_, settles⟩ := ready word.kind (by cases scope <;> simp [reserved, Scope.kind])
      (by cases scope <;> simp [reserved, Scope.kind])
    refine .token settles fun token same => ⟨.opening scope, ?_, leads_section body⟩
    cases scope <;> simp [Position.after?, same, reserved, Scope.kind]
  cases block with
  | global reserved body => exact opens .global reserved body
  | manifest reserved body => exact opens .manifest reserved body

theorem leads_block {decl : Decl} (ready : Ready program parser) (block : Block lexemes decl) :
    parser.Leads lexemes (Ready (program.addDecl decl)) := by
  refine (leads_blockEnd ready block).imp ?_
  intro _ reached next _ _
  obtain rfl := reached
  exact ⟨_, rfl⟩

end Blocks

section Definitions

variable {left : Option Def} {names : List Text} {values : List Int} {definition : Def}

theorem AtMark.leads {mark : Lexeme} (atMark : AtMark program left names parser)
    (next : Binding → Position)
    (found : ∀ binding (token : Token), token.kind = mark.kind →
      (Position.firstMark binding).after? token = some (next binding))
    (leads : ∀ binding : Binding, binding.left = left → binding.names = names →
      Leads ⟨program, next binding⟩ lexemes goal) : parser.Leads (mark :: lexemes) goal := by
  obtain ⟨binding, joined, named, rfl | rfl⟩ := atMark
  · exact .token rfl fun token same => ⟨_, found binding token (by rw [same]),
      leads binding joined named⟩
  · exact .token rfl fun token same => ⟨_, found binding token (by rw [same]),
      leads binding joined named⟩

theorem leads_names (named : Separated Name (.symbol .comma) lexemes names) :
    Leads ⟨program, .firstName left⟩ lexemes (AtMark program left names) := by
  induction named with
  | one name =>
      obtain ⟨kind⟩ := name
      refine .token rfl fun name same => ⟨_, if_pos (by rw [same, kind]), .nil ?_⟩
      exact ⟨_, rfl, by rw [← same]; rfl, .inl rfl⟩
  | more earlier parted name ih =>
      obtain ⟨kind⟩ := name
      refine ih.append fun _ atMark => atMark.leads .nextName
        (fun binding token same => if_pos (by rw [same, parted])) fun binding joined named => ?_
      refine .token rfl fun name same => ⟨_, if_pos (by rw [same, kind]), .nil ?_⟩
      refine ⟨binding.addName name.text, joined, ?_, .inr rfl⟩
      rw [← named, ← same]
      rfl

theorem leads_values {binding : Binding}
    (numbered : Separated Number (.symbol .comma) lexemes values) :
    Leads ⟨program, .body binding⟩ lexemes
      (∃ last, · = ⟨program, .valueEnd binding values last⟩) := by
  induction numbered with
  | one number =>
      exact .number (fun token value => .valueEnd binding [value] token.span) number rfl
        (fun token kind => by simp [Position.after?, kind]) fun token => ⟨token.span, rfl⟩
  | @more _ _ _ values _ earlier parted number ih =>
      refine ih.append ?_
      intro _ reached
      obtain ⟨last, rfl⟩ := reached
      refine .token (if_pos parted) fun comma same => ⟨_, if_pos (by rw [same, parted]), ?_⟩
      exact .number (fun token value => .valueEnd binding (values ++ [value]) token.span)
        number rfl (fun token kind => if_pos kind) fun token => ⟨token.span, rfl⟩

theorem leads_single (single : Single lexemes definition) :
    Leads ⟨program, .firstName left⟩ lexemes
      (∃ binding : Binding, binding.left = left ∧ Defined program (binding.join definition) ·) := by
  cases single with
  | simple named marked numbered agree =>
      refine (leads_names named).append fun _ atMark => atMark.leads .body
        (fun binding token same => by simp [Position.after?, same, marked])
        fun binding joined named => (leads_values numbered).imp ?_
      intro _ reached
      obtain ⟨last, rfl⟩ := reached
      refine ⟨binding, joined, fun next parted => ?_⟩
      rw [← named] at agree ⊢
      simp only [settle, if_neg parted, if_pos agree]
  | vec named marked reserved numbered =>
      refine (leads_names named).append fun _ atMark => atMark.leads .body
        (fun binding token same => by simp [Position.after?, same, marked])
        fun binding joined named => ?_
      refine .token rfl fun word same => ⟨_, if_pos (by rw [same, reserved]), ?_⟩
      -- Names behind the first are reported, but bind nothing.
      have settles : ∃ events, settle ⟨program, .vectorSize binding⟩ .number =
          .ok (events, ⟨program, .vectorSize binding⟩) := by
        simp only [settle]
        split <;> exact ⟨_, rfl⟩
      obtain ⟨events, settles⟩ := settles
      obtain rfl : binding.first.text = _ := (List.cons.inj named).1
      exact .number (fun _ size => .defEnd (binding.join (.vec binding.first.text
        (.const size)))) numbered settles (fun token kind => if_pos kind) fun token =>
        ⟨binding, joined, fun _ _ => rfl⟩

theorem leads_definition (ready : Ready program parser) (defined : Definition lexemes definition) :
    parser.Leads lexemes (Defined program definition) := by
  induction defined with
  | first reserved single =>
      obtain ⟨_, settles⟩ := ready (.keyword .let_) (by simp) (by simp)
      rw [← reserved] at settles
      refine .token settles fun word same => ⟨.firstName none, ?_, (leads_single single).imp ?_⟩
      · simp [Position.after?, same, reserved]
      · intro _ reached
        obtain ⟨binding, joined, complete⟩ := reached
        simpa only [Binding.join, joined] using complete
  | both earlier reserved single ih =>
      refine ih.append fun next complete => ?_
      have settles := complete (.keyword .and) (by simp)
      rw [settleDef, if_pos rfl, ← reserved] at settles
      refine .token settles fun word same => ⟨_, if_pos (by rw [same, reserved]), ?_⟩
      refine (leads_single single).imp ?_
      intro _ reached
      obtain ⟨binding, joined, complete⟩ := reached
      simpa only [Binding.join, joined] using complete

theorem Defined.ready (defined : Defined program definition parser) :
    Ready (program.addDef definition) parser := by
  intro next parted unjoined
  rw [defined next parted, settleDef, if_neg unjoined]
  exact ⟨_, rfl⟩

end Definitions

theorem leads_program (derived : Derives lexemes program) :
    Leads {} lexemes (Ready program) := by
  induction derived with
  | empty => exact .nil fun _ _ _ => ⟨[], rfl⟩
  | block earlier block ih => exact ih.append fun _ ready => leads_block ready block
  | definition earlier defined ih =>
      exact ih.append fun _ ready => (leads_definition ready defined).imp fun _ => Defined.ready

theorem Ready.finish {token : Token} (ready : Ready program parser) (ended : token.kind = .eof) :
    parser.finish token = .ok program := by
  obtain ⟨events, settles⟩ := ready .eof (by simp) (by simp)
  simp only [Parser.finish, ended, settles, bind, Except.bind, close, if_true]

end Parser

theorem exists_map_toLexeme_eq (lexemes : List Lexeme) :
    ∃ tokens : List Token, tokens.map Token.toLexeme = lexemes :=
  ⟨lexemes.map fun lexeme => ⟨lexeme, Span.empty 0⟩, (List.map_map).trans (List.map_id lexemes)⟩

/-- No lexemes derive two programs. -/
theorem Grammar.Derives.unique {lexemes : List Lexeme} {first second : Program}
    (one : Derives lexemes first) (other : Derives lexemes second) : first = second := by
  obtain ⟨tokens, same⟩ := exists_map_toLexeme_eq lexemes
  obtain ⟨behind, accepted, ready⟩ := Parser.leads_program one tokens same
  obtain ⟨again, accepts, alike⟩ := Parser.leads_program other tokens same
  obtain rfl : behind = again := Except.ok.inj (accepted.symm.trans accepts)
  let ended : Token := ⟨⟨.eof, []⟩, Span.empty 0⟩
  have finish : behind.finish ended = .ok first := ready.finish rfl
  rw [alike.finish rfl] at finish
  exact (Except.ok.inj finish).symm

theorem derives_of_parse {text : Text} {program : Program} (parsed : parse text = .ok program) :
    Derives ((significantTokens text).map Token.toLexeme) program := by
  rw [parse_eq_accepted] at parsed
  obtain ⟨behind, accepted, finished⟩ := bind_eq_ok_iff.mp parsed
  exact (Parser.Reached.start.acceptAll accepted).derives finished

theorem parse_eq_ok_of_derives {text : Text} {program : Program}
    (derived : Derives ((significantTokens text).map Token.toLexeme) program) :
    parse text = .ok program := by
  obtain ⟨behind, accepted, ready⟩ := Parser.leads_program derived _ rfl
  rw [parse_eq_accepted]
  exact bind_eq_ok_iff.mpr ⟨behind, accepted, ready.finish rfl⟩

/-- A text is parsed to the program that its significant tokens derive. If there is none, parsing
the text is an error. -/
theorem parse_eq_ok_iff_derives (text : Text) :
    (∀ program, parse text = .ok program ↔
      Derives ((significantTokens text).map Token.toLexeme) program) ∧
    ((∀ program, ¬ Derives ((significantTokens text).map Token.toLexeme) program) →
      ∃ error, parse text = .error error) := by
  have accepts : ∀ program, parse text = .ok program ↔
      Derives ((significantTokens text).map Token.toLexeme) program := by
    intro program
    rw [parse_eq_accepted, bind_eq_ok_iff]
    constructor
    · intro result
      obtain ⟨behind, accepted, finished⟩ := result
      exact (Parser.Reached.start.acceptAll accepted).derives finished
    · intro derived
      obtain ⟨behind, accepted, ready⟩ := Parser.leads_program derived _ rfl
      exact ⟨behind, accepted, ready.finish rfl⟩
  refine ⟨accepts, fun underived => ?_⟩
  cases result : parse text with
  | ok program => exact absurd ((accepts program).mp result) (underived program)
  | error error => exact ⟨error, rfl⟩

end Bcpl
