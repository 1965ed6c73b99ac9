import Mathlib.Data.List.Induction
import Mathlib.Data.Nat.Digits.Defs
import Bcpl.Program.Basic
import Bcpl.Token.Lexeme

/-!
The grammar of programs, over lexemes without comments and without the end of the file. Each rule
says which tree its lexemes stand for.
-/

namespace Bcpl.Grammar

/-- The number that a run of decimal digits stands for. The last digit counts ones. -/
def decimalValue (digits : Text) : Nat :=
  Nat.ofDigits 10 (digits.reverse.map fun digit => digit.toNat - '0'.toNat)

inductive Name : List Lexeme → Text → Prop where
  | intro {lexeme : Lexeme} (kind : lexeme.kind = .name) : Name [lexeme] lexeme.text

/-- A number that fits into a signed word of 64 bits. -/
inductive Number : List Lexeme → Int → Prop where
  | intro {lexeme : Lexeme} (kind : lexeme.kind = .number)
      (fits : decimalValue lexeme.text ≤ 2 ^ 63 - 1) : Number [lexeme] (decimalValue lexeme.text)

/-- One or more elements with a mark between each two. -/
inductive Separated {α : Type} (element : List Lexeme → α → Prop) (mark : Kind) :
    List Lexeme → List α → Prop where
  | one {lexemes : List Lexeme} {value : α} (first : element lexemes value) :
      Separated element mark lexemes [value]
  | more {before lexemes : List Lexeme} {between : Lexeme} {values : List α} {value : α}
      (earlier : Separated element mark before values) (parted : between.kind = mark)
      (next : element lexemes value) :
      Separated element mark (before ++ between :: lexemes) (values ++ [value])

inductive Declaration : List Lexeme → Entry → Prop where
  | intro {name mark : Lexeme} {number : List Lexeme} {value : Int} (named : name.kind = .name)
      (marked : mark.kind = .symbol .eq ∨ mark.kind = .symbol .colon)
      (numbered : Number number value) :
      Declaration (name :: mark :: number) ⟨name.text, value⟩

/-- The entries of a block, in section brackets and with semicolons between them. -/
inductive Section : List Lexeme → List Entry → Prop where
  | intro {opening closing : Lexeme} {lexemes : List Lexeme} {entries : List Entry}
      (opened : opening.kind = .symbol .sectBra)
      (inside : Separated Declaration (.symbol .semicolon) lexemes entries)
      (closed : closing.kind = .symbol .sectKet) : Section (opening :: lexemes ++ [closing]) entries

inductive Block : List Lexeme → Decl → Prop where
  | global {word : Lexeme} {lexemes : List Lexeme} {entries : List Entry}
      (reserved : word.kind = .keyword .global) (body : Section lexemes entries) :
      Block (word :: lexemes) (.global entries)
  | manifest {word : Lexeme} {lexemes : List Lexeme} {entries : List Entry}
      (reserved : word.kind = .keyword .manifest) (body : Section lexemes entries) :
      Block (word :: lexemes) (.constant entries)

/-- A definition of as many names as numbers, or of a vector, which binds only its first name. -/
inductive Single : List Lexeme → Def → Prop where
  | simple {left right : List Lexeme} {mark : Lexeme} {names : List Text} {values : List Int}
      (named : Separated Name (.symbol .comma) left names) (marked : mark.kind = .symbol .eq)
      (numbered : Separated Number (.symbol .comma) right values)
      (agree : names.length = values.length) :
      Single (left ++ mark :: right) (.simple names (values.map .const))
  | vec {left size : List Lexeme} {mark word : Lexeme} {name : Text} {others : List Text}
      {value : Int} (named : Separated Name (.symbol .comma) left (name :: others))
      (marked : mark.kind = .symbol .eq) (reserved : word.kind = .keyword .vec)
      (numbered : Number size value) :
      Single (left ++ mark :: word :: size) (.vec name (.const value))

/-- Definitions joined by `and`, nested to the left. -/
inductive Definition : List Lexeme → Def → Prop where
  | first {word : Lexeme} {lexemes : List Lexeme} {definition : Def}
      (reserved : word.kind = .keyword .let_) (single : Single lexemes definition) :
      Definition (word :: lexemes) definition
  | both {before lexemes : List Lexeme} {word : Lexeme} {left right : Def}
      (earlier : Definition before left) (reserved : word.kind = .keyword .and)
      (single : Single lexemes right) : Definition (before ++ word :: lexemes) (.both left right)

/-- The lexemes of a whole program. Its declarations and definitions are kept in their order. -/
inductive Derives : List Lexeme → Program → Prop where
  | empty : Derives [] {}
  | block {before lexemes : List Lexeme} {program : Program} {decl : Decl}
      (earlier : Derives before program) (block : Block lexemes decl) :
      Derives (before ++ lexemes) (program.addDecl decl)
  | definition {before lexemes : List Lexeme} {program : Program} {definition : Def}
      (earlier : Derives before program) (defined : Definition lexemes definition) :
      Derives (before ++ lexemes) (program.addDef definition)

theorem ofDecimal_eq_decimalValue (digits : Text) :
    Text.ofDecimal digits = decimalValue digits := by
  induction digits using List.reverseRecOn with
  | nil => rfl
  | append_singleton digits digit ih =>
      have step : Text.ofDecimal (digits ++ [digit]) =
          10 * Text.ofDecimal digits + (digit.toNat - '0'.toNat) := by
        simp only [Text.ofDecimal, List.foldl_append, List.foldl_cons, List.foldl_nil]
      rw [step, ih]
      simp only [decimalValue, List.reverse_append, List.reverse_singleton, List.singleton_append,
        List.map_cons, Nat.ofDigits_cons]
      exact Nat.add_comm _ _

end Bcpl.Grammar
