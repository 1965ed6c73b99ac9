import Bcpl.Proofs.Grammar.WellFormed

/-!
What a parser does not look at: where tokens stand, how names are spelled, and the texts of tokens
other than names and numbers. Other lexemes of the same kinds are parsed to the same program, but
for its names, or refused for the same cause (`parse_relabelled`).
-/

namespace Bcpl

section Names

variable (rename : Text → Text)

def Entry.mapName (entry : Entry) : Entry := { entry with name := rename entry.name }

def Decl.mapNames : Decl → Decl
  | .global entries => .global (entries.map (Entry.mapName rename))
  | .constant entries => .constant (entries.map (Entry.mapName rename))

def Def.mapNames : Def → Def
  | .simple names values => .simple (names.map rename) values
  | .vec name size => .vec (rename name) size
  | .both left right => .both left.mapNames right.mapNames

/-- A program with other names. -/
def Program.mapNames (program : Program) : Program :=
  ⟨program.decls.map (Decl.mapNames rename), program.defs.map (Def.mapNames rename)⟩

end Names

/-- Other lexemes of the same kinds. Names are replaced one for one and numbers are kept, and what
is illegal stays an open string constant if it is one. -/
structure Relabelling where
  rename : Text → Text
  lexeme : Lexeme → Lexeme
  kind : ∀ old, (lexeme old).kind = old.kind
  name : ∀ old, old.kind = .name → (lexeme old).text = rename old.text
  number : ∀ old, old.kind = .number → (lexeme old).text = old.text
  quoted : ∀ old, old.kind = .illegal →
    ((lexeme old).text.head? = some '"' ↔ old.text.head? = some '"')
  eof : lexeme ⟨.eof, []⟩ = ⟨.eof, []⟩

namespace Relabelling

/-- Every lexeme stays as it is. -/
def same : Relabelling where
  rename := id
  lexeme := id
  kind _ := rfl
  name _ _ := rfl
  number _ _ := rfl
  quoted _ _ := Iff.rfl
  eof := rfl

variable (relabelling : Relabelling)

/-- A token with its other lexeme, in no place. -/
def token (old : Token) : Token := ⟨relabelling.lexeme old.toLexeme, Span.empty 0⟩

def binding (old : Binding) : Binding where
  left := old.left.map (Def.mapNames relabelling.rename)
  first := ⟨⟨.name, relabelling.rename old.first.text⟩, Span.empty 0⟩
  others := old.others.map relabelling.rename

def position : Position → Position
  | .item => .item
  | .opening scope => .opening scope
  | .entryName scope entries => .entryName scope (entries.map (Entry.mapName relabelling.rename))
  | .entryMark scope entries name =>
      .entryMark scope (entries.map (Entry.mapName relabelling.rename)) (relabelling.rename name)
  | .entryValue scope entries name =>
      .entryValue scope (entries.map (Entry.mapName relabelling.rename)) (relabelling.rename name)
  | .entryEnd scope entries => .entryEnd scope (entries.map (Entry.mapName relabelling.rename))
  | .blockEnd decl => .blockEnd (decl.mapNames relabelling.rename)
  | .firstName left => .firstName (left.map (Def.mapNames relabelling.rename))
  | .firstMark old => .firstMark (relabelling.binding old)
  | .nextName old => .nextName (relabelling.binding old)
  | .nextMark old => .nextMark (relabelling.binding old)
  | .body old => .body (relabelling.binding old)
  | .vectorSize old => .vectorSize (relabelling.binding old)
  | .value old values => .value (relabelling.binding old) values
  | .valueEnd old values _ => .valueEnd (relabelling.binding old) values (Span.empty 0)
  | .defEnd definition => .defEnd (definition.mapNames relabelling.rename)
  | .oversized number => .oversized ⟨⟨.number, number.text⟩, Span.empty 0⟩

def parser (old : Parser) : Parser :=
  ⟨old.program.mapNames relabelling.rename, relabelling.position old.position⟩

def cause : Cause → Cause
  | .lexical text => .lexical (relabelling.lexeme ⟨.illegal, text⟩).text
  | .expected expectation found => .expected expectation (relabelling.lexeme found)
  | other => other

end Relabelling

/-- What comes of a run, whatever the place of its error. -/
def outcome {α β : Type} (value : α → β) (cause : Cause → Cause) :
    Except SyntaxError α → Except Cause β
  | .ok result => .ok (value result)
  | .error error => .error (cause error.cause)

theorem outcome_bind {α β γ δ κ : Type} {value : α → κ} {view : γ → κ} {last : β → δ}
    {cause : Cause → Cause} {first : Except SyntaxError α} {next : α → Except SyntaxError β}
    {again : Except SyntaxError γ} {after : γ → Except SyntaxError δ}
    (begun : outcome value cause first = outcome view id again)
    (behind : ∀ result other, value result = view other →
      outcome last cause (next result) = outcome id id (after other)) :
    outcome last cause (first >>= next) = outcome id id (again >>= after) := by
  cases first with
  | error error =>
      cases again with
      | error other => exact congrArg Except.error (Except.error.inj begun)
      | ok result => contradiction
  | ok result =>
      cases again with
      | error other => contradiction
      | ok other => exact behind result other (Except.ok.inj begun)

namespace Relabelling

variable (relabelling : Relabelling)

@[simp] theorem kind_token (old : Token) : (relabelling.token old).kind = old.kind :=
  relabelling.kind _

theorem token_of_name {old : Token} (name : old.kind = .name) :
    relabelling.token old = ⟨⟨.name, relabelling.rename old.text⟩, Span.empty 0⟩ := by
  have kind := relabelling.kind old.toLexeme
  have text := relabelling.name old.toLexeme name
  rw [name] at kind
  rw [token, ← kind, ← text]

theorem token_of_number {old : Token} (number : old.kind = .number) :
    relabelling.token old = ⟨⟨.number, old.text⟩, Span.empty 0⟩ := by
  have kind := relabelling.kind old.toLexeme
  have text := relabelling.number old.toLexeme number
  rw [number] at kind
  rw [token, ← kind, ← text]

@[simp] theorem names_binding (old : Binding) :
    (relabelling.binding old).names = old.names.map relabelling.rename := rfl

theorem join_binding (old : Binding) (definition : Def) :
    (relabelling.binding old).join (definition.mapNames relabelling.rename) =
      (old.join definition).mapNames relabelling.rename := by
  obtain ⟨left, first, others⟩ := old
  cases left <;> rfl

theorem decl_scope (scope : Scope) (entries : List Entry) :
    (scope.decl entries).mapNames relabelling.rename =
      scope.decl (entries.map (Entry.mapName relabelling.rename)) := by
  cases scope <;> rfl

theorem map_afterNumber {old : Token} (number : old.kind = .number) {next again : Int → Position}
    (same : ∀ value, again value = relabelling.position (next value)) :
    some (Position.afterNumber (relabelling.token old) again) =
      (some (Position.afterNumber old next)).map relabelling.position := by
  simp only [Position.afterNumber, relabelling.token_of_number number, Option.map_some, same]
  split <;> rfl

theorem after?_position (old : Position) (token : Token) :
    (relabelling.position old).after? (relabelling.token token) =
      (old.after? token).map relabelling.position := by
  cases old with
  | item =>
      simp only [position, Position.after?, kind_token]
      split <;> rfl
  | blockEnd | oversized => rfl
  | opening | entryMark | entryEnd | firstMark | nextMark | valueEnd | defEnd =>
      simp only [position, Position.after?, kind_token]
      split_ifs <;> simp [position, decl_scope]
  | entryName | firstName | nextName =>
      simp only [position, Position.after?, kind_token]
      split_ifs with name
      · simp [position, binding, Binding.addName, relabelling.token_of_name name]
      · rfl
  | entryValue | value =>
      simp only [position, Position.after?, kind_token]
      split_ifs with number
      · exact relabelling.map_afterNumber number fun value => by
          simp [position, Entry.mapName, Relabelling.token]
      · rfl
  | vectorSize old =>
      simp only [position, Position.after?, kind_token]
      split_ifs with number
      · refine relabelling.map_afterNumber number fun size => ?_
        have joined := relabelling.join_binding old (.vec old.first.text (.const size))
        exact congrArg Position.defEnd joined
      · rfl
  | body =>
      simp only [position, Position.after?, kind_token]
      split_ifs with vector number
      · rfl
      · exact relabelling.map_afterNumber number fun _ => rfl
      · rfl

theorem expectation_position (old : Position) :
    (relabelling.position old).expectation = old.expectation := by
  cases old <;> rfl

theorem position_eq_item_iff {old : Position} : relabelling.position old = .item ↔ old = .item := by
  cases old <;> simp [position]

theorem cause_refusal (token : Token) (expectation : Expectation) :
    relabelling.cause (token.refusal expectation).cause =
      ((relabelling.token token).refusal expectation).cause := by
  simp only [Token.refusal, kind_token]
  split_ifs with illegal quoted quotedAgain quotedAgain
  · rfl
  · exact absurd ((relabelling.quoted _ illegal).mpr quoted) quotedAgain
  · exact absurd ((relabelling.quoted _ illegal).mp quotedAgain) quoted
  · have same : token.toLexeme = ⟨.illegal, token.text⟩ := by rw [← illegal]
    rw [cause, ← same]
    rfl
  · rfl

theorem settleDef_mapNames (program : Program) (definition : Def) (next : Kind) :
    (Parser.settleDef (program.mapNames relabelling.rename)
      (definition.mapNames relabelling.rename) next).2 =
        relabelling.parser (Parser.settleDef program definition next).2 := by
  unfold Parser.settleDef
  split
  · rfl
  · simp [parser, position, Program.mapNames, Program.addDef]

theorem outcome_settle (old : Parser) (next : Kind) :
    outcome (fun settled => relabelling.parser settled.2) relabelling.cause (old.settle next) =
      outcome Prod.snd id ((relabelling.parser old).settle next) := by
  obtain ⟨program, place⟩ := old
  cases place with
  | blockEnd decl =>
      simp [Parser.settle, outcome, parser, position, Program.mapNames, Program.addDecl]
  | vectorSize binding =>
      simp only [Parser.settle, parser, position, Relabelling.binding, List.isEmpty_map]
      split_ifs <;> rfl
  | valueEnd binding values last =>
      let definition : Def := .simple binding.names (values.map .const)
      have settled := relabelling.settleDef_mapNames program (binding.join definition) next
      rw [← relabelling.join_binding binding definition] at settled
      change _ = outcome _ _ (Parser.settle ⟨program.mapNames relabelling.rename,
        .valueEnd (relabelling.binding binding) values (Span.empty 0)⟩ next)
      simp only [Parser.settle, names_binding, List.length_map]
      split_ifs
      · rfl
      · exact congrArg Except.ok settled.symm
      · rfl
  | defEnd definition =>
      simp only [Parser.settle, parser, position, outcome, settleDef_mapNames]
  | oversized number => rfl
  | _ => rfl

theorem settle_token (old : Parser) (token : Token) :
    outcome (fun settled => relabelling.parser settled.2) relabelling.cause
        (old.settle token.kind) =
      outcome Prod.snd id ((relabelling.parser old).settle (relabelling.token token).kind) := by
  rw [kind_token]
  exact relabelling.outcome_settle old token.kind

theorem outcome_read (old : Parser) (token : Token) :
    outcome relabelling.parser relabelling.cause (old.read token) =
      outcome id id ((relabelling.parser old).read (relabelling.token token)) := by
  obtain ⟨program, place⟩ := old
  simp only [Parser.read, parser, after?_position, expectation_position]
  cases place.after? token with
  | some next => rfl
  | none => exact congrArg Except.error (relabelling.cause_refusal token place.expectation)

theorem outcome_accept (old : Parser) (token : Token) :
    outcome relabelling.parser relabelling.cause (old.accept token) =
      outcome id id ((relabelling.parser old).accept (relabelling.token token)) := by
  refine outcome_bind (relabelling.settle_token old token) fun result other same => ?_
  rw [← same]
  exact relabelling.outcome_read result.2 token

theorem outcome_acceptAll (old : Parser) (tokens : List Token) :
    outcome relabelling.parser relabelling.cause (tokens.foldlM Parser.accept old) =
      outcome id id
        ((tokens.map relabelling.token).foldlM Parser.accept (relabelling.parser old)) := by
  induction tokens generalizing old with
  | nil => rfl
  | cons token rest ih =>
      rw [List.map_cons, List.foldlM_cons, List.foldlM_cons]
      refine outcome_bind (relabelling.outcome_accept old token) fun next other same => ?_
      obtain rfl : relabelling.parser next = other := same
      exact ih next

theorem outcome_finish (old : Parser) (token : Token) :
    outcome (Program.mapNames relabelling.rename) relabelling.cause (old.finish token) =
      outcome id id ((relabelling.parser old).finish (relabelling.token token)) := by
  refine outcome_bind (relabelling.settle_token old token) fun result other same => ?_
  obtain ⟨events, program, place⟩ := result
  rw [← same]
  simp only [Parser.close, parser, position_eq_item_iff, expectation_position]
  split
  · rfl
  · exact congrArg Except.error (relabelling.cause_refusal token place.expectation)

end Relabelling

/-- A program and its end, read from lexemes that stand nowhere. -/
def readLexemes (lexemes : List Lexeme) : Except SyntaxError Program :=
  (lexemes.map fun lexeme => Token.mk lexeme (Span.empty 0)).foldlM Parser.accept {} >>=
    (Parser.finish · ⟨⟨.eof, []⟩, Span.empty 0⟩)

theorem Relabelling.outcome_parse (relabelling : Relabelling) (text : Text) :
    outcome (Program.mapNames relabelling.rename) relabelling.cause (parse text) =
      outcome id id (readLexemes
        ((significantTokens text).map fun token => relabelling.lexeme token.toLexeme)) := by
  rw [parse_eq_accepted, readLexemes, List.map_map]
  refine outcome_bind (relabelling.outcome_acceptAll {} _) fun behind other same => ?_
  obtain rfl : relabelling.parser behind = other := same
  have ended : relabelling.token ⟨⟨.eof, []⟩, Span.empty text.size⟩ =
      ⟨⟨.eof, []⟩, Span.empty 0⟩ := by
    rw [Relabelling.token, relabelling.eof]
  rw [← ended]
  exact relabelling.outcome_finish behind _

theorem map_eq_self {α : Type} {change : α → α} {values : List α}
    (fixed : ∀ value ∈ values, change value = value) : values.map change = values :=
  (List.map_congr_left fixed).trans (List.map_id values)

section Fixed

variable {rename : Text → Text} (fixed : ∀ name, name.IsName → rename name = name)
include fixed

theorem Entry.mapName_eq_self {entry : Entry} (wellFormed : entry.WellFormed) :
    entry.mapName rename = entry := by
  rw [mapName, fixed entry.name wellFormed.name]

theorem Decl.mapNames_eq_self {decl : Decl} (wellFormed : decl.WellFormed) :
    decl.mapNames rename = decl := by
  have same : decl.entries.map (Entry.mapName rename) = decl.entries :=
    map_eq_self fun entry listed =>
      Entry.mapName_eq_self fixed (wellFormed.entries entry listed)
  cases decl with
  | global entries => exact congrArg Decl.global same
  | constant entries => exact congrArg Decl.constant same

theorem Def.mapNames_eq_self {definition : Def} (wellFormed : definition.WellFormed) :
    definition.mapNames rename = definition := by
  induction definition with
  | simple names values =>
      obtain ⟨_, _, named, _⟩ := wellFormed
      rw [mapNames, map_eq_self fun name listed => fixed name (named name listed)]
  | vec name size => rw [mapNames, fixed name wellFormed.1]
  | both left right ih ihRight =>
      obtain ⟨leftWellFormed, rightWellFormed, _⟩ := wellFormed
      rw [mapNames, ih leftWellFormed, ihRight rightWellFormed]

theorem Program.mapNames_eq_self {program : Program} (wellFormed : program.WellFormed) :
    program.mapNames rename = program := by
  rw [mapNames, map_eq_self fun decl listed =>
      Decl.mapNames_eq_self fixed (wellFormed.decls decl listed),
    map_eq_self fun definition listed =>
      Def.mapNames_eq_self fixed (wellFormed.defs definition listed)]

end Fixed

/-- Where the tokens of two texts answer to each other, so do those that matter to a parser. -/
theorem significantTokens_relabelled {relabel : Lexeme → Lexeme} {first second : Text}
    (kind : ∀ lexeme, (relabel lexeme).kind = lexeme.kind)
    (same : (lex second).map Token.toLexeme =
      (lex first).map fun token => relabel token.toLexeme) :
    (significantTokens second).map Token.toLexeme =
      (significantTokens first).map fun token => relabel token.toLexeme := by
  have plain := congrArg (List.filter (·.kind ≠ .comment)) same
  rw [List.filter_map, List.filter_map] at plain
  have kept (tokens : List Token) :
      tokens.filter ((fun lexeme => decide (lexeme.kind ≠ .comment)) ∘
        fun token => relabel token.toLexeme) = tokens.filter (·.kind ≠ .comment) :=
    List.filter_congr fun token _ => by simp only [Function.comp_apply, kind]
  rw [kept] at plain
  have shorter := congrArg List.dropLast plain
  rwa [← List.map_dropLast, ← List.map_dropLast] at shorter

theorem Relabelling.outcome_parse_same (text : Text) :
    outcome id id (parse text) =
      outcome (Program.mapNames same.rename) same.cause (parse text) := by
  cases parsed : parse text with
  | ok program =>
      have named := Program.mapNames_eq_self (fun _ _ => rfl) (wellFormed_of_parse parsed)
      exact congrArg Except.ok named.symm
  | error error =>
      cases cause : error.cause <;> simp only [outcome, cause] <;> rfl

/-- Two texts with lexemes of the same kinds hold the same program, but for its names, or are
refused for the same cause. -/
theorem parse_relabelled (relabelling : Relabelling) {first second : Text}
    (same : (significantTokens second).map Token.toLexeme =
      (significantTokens first).map fun token => relabelling.lexeme token.toLexeme) :
    outcome id id (parse second) =
      outcome (Program.mapNames relabelling.rename) relabelling.cause (parse first) := by
  rw [Relabelling.outcome_parse_same, Relabelling.outcome_parse, Relabelling.outcome_parse, ← same]
  rfl

/-- What is wrong, without the texts and counts that say more about it. -/
inductive Cause.Variant where
  | lexical | unterminatedString | expected | arityMismatch | numberTooLarge
deriving DecidableEq, Repr

def Cause.variant : Cause → Cause.Variant
  | .lexical _ => .lexical
  | .unterminatedString => .unterminatedString
  | .expected _ _ => .expected
  | .arityMismatch _ _ => .arityMismatch
  | .numberTooLarge _ => .numberTooLarge

def SyntaxError.variant (error : SyntaxError) : Cause.Variant := error.cause.variant

theorem Relabelling.variant_cause (relabelling : Relabelling) (cause : Cause) :
    (relabelling.cause cause).variant = cause.variant := by
  cases cause <;> rfl

theorem mapError_variant_relabelled (relabelling : Relabelling) {first second : Text}
    (same : (significantTokens second).map Token.toLexeme =
      (significantTokens first).map fun token => relabelling.lexeme token.toLexeme) :
    (parse second).mapError SyntaxError.variant =
      ((parse first).map (Program.mapNames relabelling.rename)).mapError SyntaxError.variant := by
  have outcomes := parse_relabelled relabelling same
  cases before : parse first with
  | ok program =>
      cases after : parse second with
      | ok other =>
          rw [before, after] at outcomes
          exact congrArg Except.ok (Except.ok.inj outcomes)
      | error error =>
          rw [before, after] at outcomes
          contradiction
  | error error =>
      cases after : parse second with
      | ok other =>
          rw [before, after] at outcomes
          contradiction
      | error other =>
          rw [before, after] at outcomes
          have causes : other.cause = relabelling.cause error.cause := Except.error.inj outcomes
          refine congrArg Except.error ?_
          rw [SyntaxError.variant, causes, relabelling.variant_cause, SyntaxError.variant]

end Bcpl
