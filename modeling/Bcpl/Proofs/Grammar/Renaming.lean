import Mathlib.Logic.Equiv.Basic
import Bcpl.Proofs.Grammar.Relabelling
import Bcpl.Proofs.Lexing.Renaming

/-!
Programs with other names. A text with other names for its names holds the program with those names,
or is refused for the same thing (`parse_rename`).
-/

namespace Bcpl

section Apart

variable {rename : Text → Text} (apart : Function.Injective rename)
include apart

theorem Entry.mapName_injective : Function.Injective (mapName rename) := by
  intro first second equal
  obtain ⟨renamed, value⟩ := Entry.mk.inj equal
  exact congrArg₂ Entry.mk (apart renamed) value

theorem Decl.mapNames_injective : Function.Injective (mapNames rename) := by
  have entries := (Entry.mapName_injective apart).list_map
  intro first second equal
  cases first <;> cases second <;> simp only [mapNames, reduceCtorEq] at equal
  · exact congrArg Decl.global (entries (Decl.global.inj equal))
  · exact congrArg Decl.constant (entries (Decl.constant.inj equal))

theorem Def.mapNames_injective : Function.Injective (mapNames rename) := by
  intro first second equal
  induction first generalizing second with
  | simple names values =>
      cases second <;> simp only [mapNames, reduceCtorEq] at equal
      obtain ⟨renamed, rfl⟩ := Def.simple.inj equal
      rw [apart.list_map renamed]
  | vec name size =>
      cases second <;> simp only [mapNames, reduceCtorEq] at equal
      obtain ⟨renamed, rfl⟩ := Def.vec.inj equal
      rw [apart renamed]
  | both left right ih ihRight =>
      cases second <;> simp only [mapNames, reduceCtorEq] at equal
      obtain ⟨lefts, rights⟩ := Def.both.inj equal
      rw [ih lefts, ihRight rights]

theorem Program.mapNames_injective : Function.Injective (mapNames rename) := by
  intro first second equal
  obtain ⟨declared, defined⟩ := Program.mk.inj equal
  have decls := (Decl.mapNames_injective apart).list_map declared
  have defs := (Def.mapNames_injective apart).list_map defined
  exact congrArg₂ Program.mk decls defs

end Apart

/-- Names become other names, and all other lexemes stay as they are. -/
def Relabelling.renaming (change : Identifier → Identifier) : Relabelling where
  rename := Text.rename change
  lexeme := Lexeme.rename change
  kind := Lexeme.kind_rename
  name old name := by
    rw [Lexeme.rename_of_name name]
    rfl
  number old number := by rw [Lexeme.rename_of_ne (by simp [number])]
  quoted old illegal := by rw [Lexeme.rename_of_ne (by simp [illegal])]
  eof := rfl

/-- Other names may be put in the places of the names of a text. The tokens and those that are
inserted keep their kinds, and their texts but for the names. The text holds the program with the
other names exactly if it held the program, which can be told from its image where no two names
become one, and if both texts are refused, then for the same thing. -/
theorem parse_rename (change : Identifier → Identifier) (text : Text) :
    ∃ edited, renameNames? change text = some edited ∧
      (lex edited).map Token.toLexeme =
        (lex text).map (fun token => token.toLexeme.rename change) ∧
      (∀ renamed, parse edited = .ok renamed ↔
        ∃ program, parse text = .ok program ∧ program.mapNames (Text.rename change) = renamed) ∧
      (Function.Injective change → ∀ program,
        parse text = .ok program ↔ parse edited = .ok (program.mapNames (Text.rename change))) ∧
      ∀ error other, parse text = .error error → parse edited = .error other →
        other.variant = error.variant := by
  obtain ⟨edited, replaced, lexemes⟩ := lex_rename change text
  have outcomes : (parse edited).mapError SyntaxError.variant =
      ((parse text).map (Program.mapNames (Text.rename change))).mapError SyntaxError.variant :=
    mapError_variant_relabelled (.renaming change)
      (significantTokens_relabelled Chunk.respelling_rename.kind lexemes)
  have image (renamed : Program) : parse edited = .ok renamed ↔
      ∃ program, parse text = .ok program ∧ program.mapNames (Text.rename change) = renamed := by
    cases before : parse text <;> cases after : parse edited <;>
      simp_all [Except.map, Except.mapError]
  refine ⟨edited, replaced, lexemes, image, fun apart program => ?_,
    fun error other before after => ?_⟩
  · rw [image]
    constructor
    · intro parsed
      exact ⟨program, parsed, rfl⟩
    · rintro ⟨source, parsed, same⟩
      rwa [← Program.mapNames_injective (Text.rename_injective apart) same]
  · rw [before, after] at outcomes
    exact Except.error.inj outcomes

/-- Where two names become one, the image of a program may stand in the place of another one. -/
theorem parse_rename_joined :
    let change : Identifier → Identifier := fun _ => ⟨"B".toList, by decide⟩
    let program : Program := { defs := [.simple ["B".toList] [.const 1]] }
    renameNames? change "let A = 1".toList = some "let B = 1".toList ∧
      ¬(parse "let A = 1".toList = .ok program ↔
        parse "let B = 1".toList = .ok (program.mapNames (Text.rename change))) := by
  decide +kernel

/-- Two names change places, in a text that holds a program and in one that is refused. -/
theorem parse_rename_swapped :
    let change : Identifier → Identifier :=
      Equiv.swap ⟨"A".toList, by decide⟩ ⟨"Total".toList, by decide⟩
    Function.Injective change ∧
      renameNames? change "let A, B = 1, 2".toList = some "let Total, B = 1, 2".toList ∧
      (∀ program, parse "let A, B = 1, 2".toList = .ok program ↔
        parse "let Total, B = 1, 2".toList = .ok (program.mapNames (Text.rename change))) ∧
      renameNames? change "let A = #".toList = some "let Total = #".toList ∧
      ∃ error other, parse "let A = #".toList = .error error ∧
        parse "let Total = #".toList = .error other ∧ other.variant = error.variant := by
  intro change
  have apart : Function.Injective change := Equiv.injective _
  have held : renameNames? change "let A, B = 1, 2".toList = some "let Total, B = 1, 2".toList := by
    decide +kernel
  have refused : renameNames? change "let A = #".toList = some "let Total = #".toList := by
    decide +kernel
  obtain ⟨edited, replaced, _, _, told, _⟩ := parse_rename change "let A, B = 1, 2".toList
  obtain rfl := Option.some.inj (held.symm.trans replaced)
  obtain ⟨changed, again, _, _, _, same⟩ := parse_rename change "let A = #".toList
  obtain rfl := Option.some.inj (refused.symm.trans again)
  have before : parse "let A = #".toList = .error ⟨.lexical ['#'], ⟨8, 9⟩⟩ := by decide +kernel
  have after : parse "let Total = #".toList = .error ⟨.lexical ['#'], ⟨12, 13⟩⟩ := by
    decide +kernel
  exact ⟨apart, held, told apart, refused, _, _, before, after, same _ _ before after⟩

/-- A name may touch the number in front of it, and a reserved word is no name. -/
example :
    let change : Identifier → Identifier := fun _ => ⟨"vector1".toList, by decide⟩
    renameNames? change "let 5abc = vec a".toList =
      some "let 5vector1 = vec vector1".toList := by
  decide +kernel

end Bcpl
