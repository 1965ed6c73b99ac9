import Bcpl.Proofs.Grammar.Completeness
import Bcpl.Proofs.Lexing.Keywords
import Bcpl.Proofs.Lexing.TokenText

/-!
Programs as they can be written. Every program that is parsed is well-formed
(`wellFormed_of_parse`): what the grammar says of lexemes holds of the parts of the tree that is
built from them.
-/

namespace Bcpl

open Grammar

/-- A letter, with letters and digits behind it, that is no reserved word. -/
structure Text.IsName (text : Text) : Prop where
  letter : text.head?.any Char.isAlpha = true
  plain : ∀ c ∈ text, c.isAlphanum = true
  free : text ∉ Keyword.all.map Keyword.spelling

/-- The numbers that fit, without a sign, into a signed word of 64 bits. -/
def FitsWord (value : Int) : Prop := 0 ≤ value ∧ value ≤ 2 ^ 63 - 1

structure Entry.WellFormed (entry : Entry) : Prop where
  name : entry.name.IsName
  value : FitsWord entry.value

structure Decl.WellFormed (decl : Decl) : Prop where
  filled : decl.entries ≠ []
  entries : ∀ entry ∈ decl.entries, entry.WellFormed

def Expr.WellFormed : Expr → Prop
  | .const value => FitsWord value

namespace Def

def isBoth : Def → Bool
  | .both _ _ => true
  | _ => false

/-- Names and values agree, and definitions that hold at the same time are nested to the left. -/
def WellFormed : Def → Prop
  | .simple names values => names ≠ [] ∧ names.length = values.length ∧
      (∀ name ∈ names, name.IsName) ∧ ∀ value ∈ values, value.WellFormed
  | .vec name size => name.IsName ∧ size.WellFormed
  | .both left right => left.WellFormed ∧ right.WellFormed ∧ right.isBoth = false

end Def

structure Program.WellFormed (program : Program) : Prop where
  decls : ∀ decl ∈ program.decls, decl.WellFormed
  defs : ∀ definition ∈ program.defs, definition.WellFormed

section Decidable

instance (text : Text) : Decidable text.IsName :=
  decidable_of_iff (text.head?.any Char.isAlpha = true ∧ text.all Char.isAlphanum = true ∧
    text ∉ Keyword.all.map Keyword.spelling)
    ⟨fun ⟨letter, plain, free⟩ => ⟨letter, List.all_eq_true.mp plain, free⟩, fun name =>
      ⟨name.letter, List.all_eq_true.mpr name.plain, name.free⟩⟩

instance (value : Int) : Decidable (FitsWord value) :=
  inferInstanceAs (Decidable (0 ≤ value ∧ value ≤ 2 ^ 63 - 1))

instance (entry : Entry) : Decidable entry.WellFormed :=
  decidable_of_iff (entry.name.IsName ∧ FitsWord entry.value)
    ⟨fun ⟨name, value⟩ => ⟨name, value⟩, fun entry => ⟨entry.name, entry.value⟩⟩

instance (decl : Decl) : Decidable decl.WellFormed :=
  decidable_of_iff (decl.entries ≠ [] ∧ ∀ entry ∈ decl.entries, entry.WellFormed)
    ⟨fun ⟨filled, entries⟩ => ⟨filled, entries⟩, fun decl => ⟨decl.filled, decl.entries⟩⟩

instance : (value : Expr) → Decidable value.WellFormed
  | .const value => inferInstanceAs (Decidable (FitsWord value))

instance Def.decidableWellFormed : (definition : Def) → Decidable definition.WellFormed
  | .simple names values => inferInstanceAs (Decidable (names ≠ [] ∧ names.length = values.length ∧
      (∀ name ∈ names, name.IsName) ∧ ∀ value ∈ values, value.WellFormed))
  | .vec name size => inferInstanceAs (Decidable (name.IsName ∧ size.WellFormed))
  | .both left right =>
      have := decidableWellFormed left
      have := decidableWellFormed right
      inferInstanceAs (Decidable (left.WellFormed ∧ right.WellFormed ∧ right.isBoth = false))

instance (program : Program) : Decidable program.WellFormed :=
  decidable_of_iff ((∀ decl ∈ program.decls, decl.WellFormed) ∧
    ∀ definition ∈ program.defs, definition.WellFormed)
    ⟨fun ⟨decls, defs⟩ => ⟨decls, defs⟩, fun program => ⟨program.decls, program.defs⟩⟩

end Decidable

namespace Lexeme

theorem isName_of_read {text : Text} (name : (read text).kind = .name) :
    (read text).text.IsName := by
  revert name
  fun_cases read text with
  | case1 => simp
  | case2 => simp [remark]
  | case3 first rest _ letter =>
      intro name
      refine ⟨by simpa [word] using letter, ?_, ofWord_eq_name_iff.mp name⟩
      refine List.forall_mem_cons.mpr ⟨by simp [Char.isAlphanum, letter], fun c member => ?_⟩
      exact List.mem_takeWhile_imp member
  | case4 => simp [digits]
  | case5 rest =>
      unfold quotation
      split <;> simp
  | case6 first rest =>
      rcases mark_spelled first rest with same | ⟨symbol, same, _⟩ <;> simp [same]

end Lexeme

theorem isName_of_mem_lex {text : Text} {token : Token} (member : token ∈ lex text)
    (name : token.kind = .name) : token.text.IsName := by
  obtain ⟨chunks, layout⟩ := Layout.exists_chunks text
  rw [layout.lex_eq] at member
  obtain ⟨raw, listed, rfl | rfl | rfl⟩ := mem_weave member
  · have read := layout.read_of_mem listed
    rw [← read] at name ⊢
    exact Lexeme.isName_of_read name
  all_goals simp [Token.synthetic] at name

namespace Grammar

section Separated

variable {α : Type} {element : List Lexeme → α → Prop} {mark : Kind} {lexemes : List Lexeme}
  {values : List α}

theorem Separated.ne_nil (separated : Separated element mark lexemes values) : values ≠ [] := by
  cases separated with
  | one => exact List.cons_ne_nil _ _
  | more => exact List.append_ne_nil_of_right_ne_nil _ (List.cons_ne_nil _ _)

/-- What holds of every element holds of all the values of a row. -/
theorem Separated.forall_mem {Right : α → Prop} (separated : Separated element mark lexemes values)
    (each : ∀ part value, element part value → part ⊆ lexemes → Right value) :
    ∀ value ∈ values, Right value := by
  induction separated with
  | one first =>
      intro value member
      rw [List.mem_singleton.mp member]
      exact each _ _ first (List.Subset.refl _)
  | @more before last between values value earlier parted next ih =>
      intro other member
      rcases List.mem_append.mp member with early | late
      · exact ih (fun part value right inside => each part value right
          fun lexeme listed => List.mem_append_left _ (inside listed)) other early
      · rw [List.mem_singleton.mp late]
        exact each _ _ next fun lexeme listed =>
          List.mem_append_right _ (List.mem_cons_of_mem _ listed)

end Separated

/-- The names among some lexemes are names of a program. -/
def NamesRead (lexemes : List Lexeme) : Prop :=
  ∀ lexeme ∈ lexemes, lexeme.kind = .name → lexeme.text.IsName

variable {lexemes : List Lexeme}

theorem NamesRead.part {others : List Lexeme} (read : NamesRead others) (part : lexemes ⊆ others) :
    NamesRead lexemes := fun lexeme listed => read lexeme (part listed)

theorem Number.fits {value : Int} (number : Number lexemes value) : FitsWord value := by
  obtain ⟨_, fits⟩ := number
  refine ⟨Int.natCast_nonneg _, ?_⟩
  have power : ((2 ^ 63 - 1 : Nat) : Int) = 2 ^ 63 - 1 := by norm_num
  rw [← power]
  exact Int.ofNat_le.mpr fits

theorem Name.isName {name : Text} (named : Name lexemes name) (read : NamesRead lexemes) :
    name.IsName := by
  obtain ⟨kind⟩ := named
  exact read _ List.mem_cons_self kind

theorem Declaration.wellFormed {entry : Entry} (declared : Declaration lexemes entry)
    (read : NamesRead lexemes) : entry.WellFormed := by
  obtain ⟨named, _, numbered⟩ := declared
  exact ⟨read _ List.mem_cons_self named, numbered.fits⟩

theorem Section.wellFormed {entries : List Entry} (body : Section lexemes entries)
    (read : NamesRead lexemes) : entries ≠ [] ∧ ∀ entry ∈ entries, entry.WellFormed := by
  obtain ⟨_, inside, _⟩ := body
  refine ⟨inside.ne_nil, inside.forall_mem fun part entry declared within => ?_⟩
  refine declared.wellFormed (read.part fun lexeme listed => ?_)
  exact List.mem_append_left _ (List.mem_cons_of_mem _ (within listed))

theorem Block.wellFormed {decl : Decl} (block : Block lexemes decl) (read : NamesRead lexemes) :
    decl.WellFormed := by
  cases block with
  | global _ body | manifest _ body =>
      obtain ⟨filled, entries⟩ := body.wellFormed (read.part (List.subset_cons_self _ _))
      exact ⟨filled, entries⟩

theorem Single.wellFormed {definition : Def} (single : Single lexemes definition)
    (read : NamesRead lexemes) : definition.WellFormed ∧ definition.isBoth = false := by
  have named {left names} (row : Separated Name (.symbol .comma) left names)
      (inside : left ⊆ lexemes) : ∀ name ∈ names, name.IsName :=
    row.forall_mem fun part name named within =>
      named.isName (read.part fun lexeme listed => inside (within listed))
  cases single with
  | simple row _ numbered agree =>
      refine ⟨⟨row.ne_nil, by simpa using agree, named row (List.subset_append_left _ _), ?_⟩, rfl⟩
      intro value member
      obtain ⟨number, listed, rfl⟩ := List.mem_map.mp member
      exact numbered.forall_mem (fun part value number _ => number.fits) number listed
  | vec row _ _ numbered =>
      exact ⟨⟨named row (List.subset_append_left _ _) _ List.mem_cons_self, numbered.fits⟩, rfl⟩

theorem Definition.wellFormed {definition : Def} (defined : Definition lexemes definition)
    (read : NamesRead lexemes) : definition.WellFormed := by
  induction defined with
  | first _ single => exact (single.wellFormed (read.part (List.subset_cons_self _ _))).1
  | both _ _ single ih =>
      obtain ⟨right, unjoined⟩ := single.wellFormed (read.part fun lexeme listed =>
        List.mem_append_right _ (List.mem_cons_of_mem _ listed))
      exact ⟨ih (read.part (List.subset_append_left _ _)), right, unjoined⟩

theorem Derives.wellFormed {program : Program} (derived : Derives lexemes program)
    (read : NamesRead lexemes) : program.WellFormed := by
  induction derived with
  | empty => exact ⟨by simp, by simp⟩
  | block _ block ih =>
      obtain ⟨decls, defs⟩ := ih (read.part (List.subset_append_left _ _))
      refine ⟨fun decl member => ?_, defs⟩
      rcases List.mem_append.mp member with early | last
      · exact decls decl early
      · rw [List.mem_singleton.mp last]
        exact block.wellFormed (read.part (List.subset_append_right _ _))
  | definition _ defined ih =>
      obtain ⟨decls, defs⟩ := ih (read.part (List.subset_append_left _ _))
      refine ⟨decls, fun definition member => ?_⟩
      rcases List.mem_append.mp member with early | last
      · exact defs definition early
      · rw [List.mem_singleton.mp last]
        exact defined.wellFormed (read.part (List.subset_append_right _ _))

end Grammar

/-- What is parsed is well-formed. -/
theorem wellFormed_of_parse {text : Text} {program : Program} (parsed : parse text = .ok program) :
    program.WellFormed := by
  refine (derives_of_parse parsed).wellFormed fun lexeme listed name => ?_
  obtain ⟨token, member, rfl⟩ := List.mem_map.mp listed
  exact isName_of_mem_lex (mem_lex_of_mem_significantTokens member) name

/-- Definitions are joined from the left. -/
example :
    let vector (name : Char) : Def := .vec [name] (.const 1)
    (Def.both (.both (vector 'A') (vector 'B')) (vector 'C')).WellFormed ∧
      ¬ (Def.both (vector 'A') (.both (vector 'B') (vector 'C'))).WellFormed := by
  decide

end Bcpl
