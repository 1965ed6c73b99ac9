import Bcpl.Proofs.Grammar.Concatenation
import Bcpl.Proofs.Grammar.WellFormed
import Bcpl.Proofs.Text.Decimals

/-!
Programs written out as texts, on one line and with a space in front of every token. A well-formed
program is read back from its text (`Program.parse_write`), so the programs that can be parsed are
the well-formed ones (`exists_parse_iff_wellFormed`).
-/

namespace Bcpl

open Grammar

namespace Lexeme

def ofName (name : Text) : Lexeme := ⟨.name, name⟩

def ofValue (value : Int) : Lexeme := ⟨.number, Text.decimal value.toNat⟩

/-- Rows of lexemes with a mark between each two. -/
def separate (mark : Kind) (rows : List (List Lexeme)) : List Lexeme :=
  [ofKind mark].intercalate rows

end Lexeme

open Lexeme

def Entry.lexemes (entry : Entry) : List Lexeme :=
  [ofName entry.name, ofKind (.symbol .eq), ofValue entry.value]

def Decl.scope : Decl → Scope
  | .global _ => .global
  | .constant _ => .manifest

/-- The entries of a declaration in section brackets. -/
def Decl.body (decl : Decl) : List Lexeme :=
  ofKind (.symbol .sectBra) :: separate (.symbol .semicolon) (decl.entries.map Entry.lexemes) ++
    [ofKind (.symbol .sectKet)]

def Decl.lexemes (decl : Decl) : List Lexeme := ofKind decl.scope.kind :: decl.body

def Expr.value : Expr → Int
  | .const value => value

namespace Def

/-- A definition without the word that starts it. -/
def lexemes : Def → List Lexeme
  | .simple names values =>
      separate (.symbol .comma) (names.map ([ofName ·])) ++ ofKind (.symbol .eq) ::
        separate (.symbol .comma) (values.map ([ofValue ·.value]))
  | .vec name size =>
      [ofName name, ofKind (.symbol .eq), ofKind (.keyword .vec), ofValue size.value]
  | .both left right => left.lexemes ++ ofKind (.keyword .and) :: right.lexemes

end Def

namespace Program

def lexemes (program : Program) : List Lexeme :=
  program.decls.flatMap Decl.lexemes ++
    program.defs.flatMap fun definition => ofKind (.keyword .let_) :: definition.lexemes

def write (program : Program) : Text :=
  program.lexemes.flatMap fun lexeme => ' ' :: lexeme.text

end Program

namespace Grammar

theorem decimalValue_decimal (n : Nat) : decimalValue (Text.decimal n) = n := by
  rw [← ofDecimal_eq_decimalValue]
  exact Nat.ofDigitChars_eq_foldl.symm.trans Nat.ofDigitChars_ten_toDigits

theorem Number.of_fits {value : Int} (fits : FitsWord value) : Number [ofValue value] value := by
  obtain ⟨nonneg, bounded⟩ := fits
  have same : decimalValue (ofValue value).text = value.toNat := decimalValue_decimal _
  have number : Number [ofValue value] (decimalValue (ofValue value).text : Int) := by
    refine .intro rfl ?_
    rw [same]
    omega
  rwa [same, Int.toNat_of_nonneg nonneg] at number

section Separated

variable {α : Type} {element : List Lexeme → α → Prop} {mark : Kind} {before lexemes : List Lexeme}
  {value : α} {values : List α}

/-- Rows are read from the left, but may be put together from the right as well. -/
theorem Separated.cons (first : element before value)
    (rest : Separated element mark lexemes values) :
    Separated element mark (before ++ ofKind mark :: lexemes) (value :: values) := by
  induction rest with
  | one last => exact .more (.one first) rfl last
  | more _ parted last ih =>
      have longer := Separated.more ih parted last
      rwa [List.append_assoc, List.cons_append] at longer

theorem separated_separate {write : α → List Lexeme} (filled : values ≠ [])
    (each : ∀ value ∈ values, element (write value) value) :
    Separated element mark (separate mark (values.map write)) values := by
  induction values with
  | nil => contradiction
  | cons value rest ih =>
      obtain ⟨first, others⟩ := List.forall_mem_cons.mp each
      by_cases alone : rest = []
      · subst alone
        simpa [separate] using Separated.one first
      · have behind := Separated.cons first (ih alone others)
        rw [separate, List.map_cons, List.intercalate_cons_of_ne_nil (by simpa using alone)]
        rwa [List.append_assoc, List.singleton_append]

end Separated

end Grammar

namespace Program

theorem declaration_lexemes {entry : Entry} (wellFormed : entry.WellFormed) :
    Declaration entry.lexemes entry :=
  .intro rfl (.inl rfl) (.of_fits wellFormed.value)

theorem block_lexemes {decl : Decl} (wellFormed : decl.WellFormed) :
    Block decl.lexemes decl := by
  have inside : Separated Declaration (.symbol .semicolon)
      (separate (.symbol .semicolon) (decl.entries.map Entry.lexemes)) decl.entries :=
    separated_separate wellFormed.filled fun entry listed =>
      declaration_lexemes (wellFormed.entries entry listed)
  have body : Section decl.body decl.entries := .intro rfl inside rfl
  cases decl with
  | global entries => exact .global rfl body
  | constant entries => exact .manifest rfl body

theorem single_lexemes {definition : Def} (wellFormed : definition.WellFormed)
    (unjoined : definition.isBoth = false) : Single definition.lexemes definition := by
  cases definition with
  | simple names values =>
      obtain ⟨filled, agree, named, numbered⟩ := wellFormed
      have others : values ≠ [] := by
        rw [← List.length_pos_iff] at filled ⊢
        omega
      have right : Separated Number (.symbol .comma)
          (separate (.symbol .comma) ((values.map Expr.value).map ([ofValue ·])))
          (values.map Expr.value) := by
        refine separated_separate (by simpa using others) fun value listed => ?_
        obtain ⟨⟨_⟩, member, rfl⟩ := List.mem_map.mp listed
        exact .of_fits (numbered _ member)
      have left : Separated Name (.symbol .comma)
          (separate (.symbol .comma) (names.map ([ofName ·]))) names :=
        separated_separate filled fun name _ => .intro rfl
      have constants : (values.map Expr.value).map Expr.const = values := by
        rw [List.map_map]
        exact List.map_id values
      have single : Single (_ ++ ofKind (.symbol .eq) :: _)
          (.simple names ((values.map Expr.value).map .const)) :=
        .simple left rfl right (by simpa using agree)
      rw [constants, List.map_map] at single
      exact single
  | vec name size =>
      cases size with
      | const value => exact .vec (.one (.intro rfl)) rfl rfl (.of_fits wellFormed.2)
  | both => contradiction

theorem definition_lexemes {definition : Def} (wellFormed : definition.WellFormed) :
    Definition (ofKind (.keyword .let_) :: definition.lexemes) definition := by
  induction definition with
  | simple | vec => exact .first rfl (single_lexemes wellFormed rfl)
  | both left right ih _ =>
      obtain ⟨leftWellFormed, rightWellFormed, unjoined⟩ := wellFormed
      exact .both (ih leftWellFormed) rfl (single_lexemes rightWellFormed unjoined)

theorem derives_decls {decls : List Decl} (each : ∀ decl ∈ decls, decl.WellFormed) :
    Derives (decls.flatMap Decl.lexemes) ⟨decls, []⟩ := by
  induction decls with
  | nil => exact .empty
  | cons decl rest ih =>
      obtain ⟨first, others⟩ := List.forall_mem_cons.mp each
      exact (Derives.empty.block (block_lexemes first)).append (ih others)

theorem derives_defs {defs : List Def} (each : ∀ definition ∈ defs, definition.WellFormed) :
    Derives (defs.flatMap fun definition => ofKind (.keyword .let_) :: definition.lexemes)
      ⟨[], defs⟩ := by
  induction defs with
  | nil => exact .empty
  | cons definition rest ih =>
      obtain ⟨first, others⟩ := List.forall_mem_cons.mp each
      exact (Derives.empty.definition (definition_lexemes first)).append (ih others)

theorem derives_lexemes {program : Program} (wellFormed : program.WellFormed) :
    Derives program.lexemes program := by
  have both := (derives_decls wellFormed.decls).append (derives_defs wellFormed.defs)
  rwa [List.append_nil, List.nil_append] at both

end Program

/-- A lexeme of programs that can be written behind a space on any line. -/
structure Lexeme.Plain (lexeme : Lexeme) : Prop where
  visible : lexeme.Visible
  read : Lexeme.read lexeme.text = lexeme
  legal : lexeme.kind ≠ .illegal
  significant : lexeme.kind ≠ .comment
  startsNothing : lexeme.kind.isDoStart = false

/-- Some lexemes, each with a space in front of it. -/
def spacedChunks (lexemes : List Lexeme) : List Chunk :=
  lexemes.map (⟨[' '], ·⟩) ++ [⟨[], ⟨.eof, []⟩⟩]

section Spaced

variable {lexemes : List Lexeme} (plain : ∀ lexeme ∈ lexemes, lexeme.Plain)
include plain

theorem Layout.spaced :
    Layout (lexemes.flatMap fun lexeme => ' ' :: lexeme.text) (spacedChunks lexemes) := by
  induction lexemes with
  | nil => exact .finish (by simp)
  | cons lexeme rest ih =>
      obtain ⟨first, others⟩ := List.forall_mem_cons.mp plain
      have stops : lexeme.EndsBefore (rest.flatMap fun lexeme => ' ' :: lexeme.text) := by
        intro c next
        cases rest with
        | nil => contradiction
        | cons following rest =>
            obtain rfl : ' ' = c := Option.some.inj next
            rw [Bool.eq_false_iff]
            intro goesOn
            exact first.significant
              (comment_of_continuedBy_blank first.visible first.read first.legal (by decide) goesOn)
      have blank : ∀ c ∈ [' '], Lexer.isBlank c = true := by simp [Lexer.isBlank]
      exact .lexeme blank first.visible first.read stops (ih others)

theorem plainLexemes_spacedChunks (armed : Bool) :
    plainLexemes armed (spacedChunks lexemes) = lexemes ++ [⟨.eof, []⟩] := by
  induction lexemes generalizing armed with
  | nil => simp [spacedChunks, plainLexemes, spellOut_finish]
  | cons lexeme rest ih =>
      obtain ⟨first, others⟩ := List.forall_mem_cons.mp plain
      have nothing : Chunk.inserted? armed ⟨[' '], lexeme⟩ = none := by
        simp [Chunk.inserted?, Chunk.startsLine, first.startsNothing]
      have behind := ih others (Chunk.arms armed ⟨[' '], lexeme⟩)
      rw [spacedChunks, List.map_cons, List.cons_append,
        plainLexemes_of_none first.significant nothing, List.cons_append]
      exact congrArg _ behind

end Spaced

namespace Lexeme

theorem isBlank_of_isAlphanum {c : Char} (plain : c.isAlphanum = true) :
    Lexer.isBlank c = false := by
  rw [Bool.eq_false_iff]
  intro blank
  simp [(isBlank_plain blank).1] at plain

theorem plain_ofName {name : Text} (isName : name.IsName) : (ofName name).Plain := by
  obtain ⟨letter, plain, free⟩ := isName
  obtain ⟨first, rest, rfl⟩ : ∃ first rest, name = first :: rest := by
    cases name with
    | nil => contradiction
    | cons first rest => exact ⟨first, rest, rfl⟩
  have letter : first.isAlpha = true := by simpa using letter
  have whole : rest.takeWhile Char.isAlphanum = rest :=
    List.takeWhile_eq_self_iff.mpr fun c member => plain c (List.mem_cons_of_mem _ member)
  have read : read (first :: rest) = ⟨.name, first :: rest⟩ := by
    rw [read_of_isAlpha letter, word, whole, ofWord_eq_name_iff.mpr free]
  have shown : Lexer.isBlank first = false :=
    isBlank_of_isAlphanum (by simp [Char.isAlphanum, letter])
  exact ⟨⟨first, rest, rfl, shown⟩, read, by simp [ofName], by simp [ofName], rfl⟩

theorem plain_ofValue (value : Int) : (ofValue value).Plain := by
  have digits : ∀ c ∈ Text.decimal value.toNat, c.isDigit = true := fun _ =>
    Text.isDigit_of_mem_decimal
  obtain ⟨first, rest, spelled⟩ : ∃ first rest, Text.decimal value.toNat = first :: rest :=
    List.exists_cons_of_ne_nil (Text.decimal_ne_nil _)
  rw [spelled] at digits
  obtain ⟨digit, others⟩ := List.forall_mem_cons.mp digits
  have read : read (first :: rest) = ⟨.number, first :: rest⟩ := by
    rw [read_of_isDigit digit, Lexeme.digits, List.takeWhile_eq_self_iff.mpr others]
  have shown : Lexer.isBlank first = false :=
    isBlank_of_isAlphanum (by simp [Char.isAlphanum, digit])
  refine ⟨⟨first, rest, spelled, shown⟩, ?_, by simp [ofValue], by simp [ofValue], rfl⟩
  simpa only [ofValue, spelled] using read

/-- The marks and words of programs. -/
def marks : List Kind :=
  [.symbol .eq, .symbol .comma, .symbol .semicolon, .symbol .sectBra, .symbol .sectKet,
    .keyword .global, .keyword .manifest, .keyword .let_, .keyword .and, .keyword .vec]

theorem plain_ofKind {kind : Kind} (used : kind ∈ marks) : (ofKind kind).Plain := by
  simp only [marks, List.mem_cons, List.not_mem_nil, or_false] at used
  rcases used with rfl | rfl | rfl | rfl | rfl | rfl | rfl | rfl | rfl | rfl <;>
    exact ⟨⟨_, _, rfl, rfl⟩, by decide, by decide, by decide, by decide⟩

theorem plain_separate {mark : Kind} {rows : List (List Lexeme)} (marked : (ofKind mark).Plain)
    (each : ∀ row ∈ rows, ∀ lexeme ∈ row, lexeme.Plain) :
    ∀ lexeme ∈ separate mark rows, lexeme.Plain := by
  induction rows with
  | nil => simp [separate]
  | cons row rest ih =>
      obtain ⟨first, others⟩ := List.forall_mem_cons.mp each
      by_cases alone : rest = []
      · subst alone
        simpa [separate] using first
      · rw [separate, List.intercalate_cons_of_ne_nil alone]
        simp only [List.forall_mem_append, List.forall_mem_singleton]
        exact ⟨⟨first, marked⟩, ih others⟩

end Lexeme

section Parts

variable {lexeme : Lexeme}

theorem Entry.plain_lexemes {entry : Entry} (wellFormed : entry.WellFormed) :
    ∀ lexeme ∈ entry.lexemes, lexeme.Plain := by
  simp only [Entry.lexemes, List.forall_mem_cons, List.not_mem_nil, false_imp_iff,
    implies_true, and_true]
  exact ⟨plain_ofName wellFormed.name, plain_ofKind (by decide), plain_ofValue _⟩

theorem Decl.plain_lexemes {decl : Decl} (wellFormed : decl.WellFormed) :
    ∀ lexeme ∈ decl.lexemes, lexeme.Plain := by
  have word : (ofKind decl.scope.kind).Plain := by
    cases decl with
    | global | constant => exact plain_ofKind (by simp [marks, scope, Scope.kind])
  have inside : ∀ lexeme ∈ separate (.symbol .semicolon) (decl.entries.map Entry.lexemes),
      lexeme.Plain := by
    refine plain_separate (plain_ofKind (by decide)) fun row listed => ?_
    obtain ⟨entry, member, rfl⟩ := List.mem_map.mp listed
    exact entry.plain_lexemes (wellFormed.entries entry member)
  simp only [Decl.lexemes, Decl.body, List.forall_mem_cons, List.forall_mem_append,
    List.not_mem_nil, false_imp_iff, implies_true, and_true]
  exact ⟨word, ⟨plain_ofKind (by decide), inside⟩, plain_ofKind (by decide)⟩

theorem Def.plain_lexemes {definition : Def} (wellFormed : definition.WellFormed) :
    ∀ lexeme ∈ definition.lexemes, lexeme.Plain := by
  induction definition with
  | simple names values =>
      obtain ⟨_, _, named, _⟩ := wellFormed
      have left : ∀ lexeme ∈ separate (.symbol .comma) (names.map ([ofName ·])), lexeme.Plain := by
        refine plain_separate (plain_ofKind (by decide)) fun row listed => ?_
        obtain ⟨name, member, rfl⟩ := List.mem_map.mp listed
        simpa using plain_ofName (named name member)
      have right : ∀ lexeme ∈ separate (.symbol .comma) (values.map ([ofValue ·.value])),
          lexeme.Plain := by
        refine plain_separate (plain_ofKind (by decide)) fun row listed => ?_
        obtain ⟨value, _, rfl⟩ := List.mem_map.mp listed
        simpa using plain_ofValue value.value
      simp only [Def.lexemes, List.forall_mem_cons, List.forall_mem_append]
      exact ⟨left, plain_ofKind (by decide), right⟩
  | vec name size =>
      simp only [Def.lexemes, List.forall_mem_cons, List.not_mem_nil, false_imp_iff,
        implies_true, and_true]
      exact ⟨plain_ofName wellFormed.1, plain_ofKind (by decide), plain_ofKind (by decide),
        plain_ofValue _⟩
  | both left right ih ihRight =>
      obtain ⟨leftWellFormed, rightWellFormed, _⟩ := wellFormed
      simp only [Def.lexemes, List.forall_mem_cons, List.forall_mem_append]
      exact ⟨ih leftWellFormed, plain_ofKind (by decide), ihRight rightWellFormed⟩

theorem Program.plain_lexemes {program : Program} (wellFormed : program.WellFormed) :
    ∀ lexeme ∈ program.lexemes, lexeme.Plain := by
  simp only [Program.lexemes, List.forall_mem_append, List.forall_mem_flatMap]
  refine ⟨fun decl listed => decl.plain_lexemes (wellFormed.decls decl listed),
    fun definition listed => ?_⟩
  exact List.forall_mem_cons.mpr
    ⟨plain_ofKind (by decide), definition.plain_lexemes (wellFormed.defs definition listed)⟩

end Parts

/-- A well-formed program is read back from the text that it is written out as. -/
theorem Program.parse_write {program : Program} (wellFormed : program.WellFormed) :
    parse program.write = .ok program := by
  have plain := program.plain_lexemes wellFormed
  have lexemes := (Layout.spaced plain).significantTokens_eq
  rw [plainLexemes_spacedChunks plain] at lexemes
  apply parse_eq_ok_of_derives
  rw [write, List.append_cancel_right lexemes]
  exact derives_lexemes wellFormed

/-- The programs that some text holds are the well-formed ones. -/
theorem exists_parse_iff_wellFormed (program : Program) :
    (∃ text, parse text = .ok program) ↔ program.WellFormed := by
  constructor
  · rintro ⟨text, parsed⟩
    exact wellFormed_of_parse parsed
  · intro wellFormed
    exact ⟨program.write, Program.parse_write wellFormed⟩

end Bcpl
