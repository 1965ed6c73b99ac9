import Bcpl.Proofs.Grammar.Writing
import Bcpl.Proofs.Lexing.Respelling

/-!
Texts with other names. All names go on with the same characters, and what stands in front of one
stops at every letter, so a text with other names is laid out as the same row of lexemes but for
those names (`Layout.rename`). Its tokens are the same but for them (`lex_rename`).
-/

namespace Bcpl

/-- A word that can be a name. -/
abbrev Identifier : Type := {text : Text // text.IsName}

namespace Text

theorem IsName.exists_letter {text : Text} (name : text.IsName) :
    ∃ first tail, text = first :: tail ∧ first.isAlpha = true := by
  obtain ⟨letter, _, _⟩ := name
  cases text with
  | nil => contradiction
  | cons first tail => exact ⟨first, tail, rfl, by simpa using letter⟩

/-- A text with a piece in the place of a region, if the region can be cut out. -/
def replace? (text : Text) (span : Span) (piece : Text) : Option Text := do
  let before ← takeBytes? span.start text
  let after ← dropBytes? span.stop text
  return before ++ piece ++ after

theorem replace?_append (before middle after piece : Text) :
    replace? (before ++ middle ++ after) ⟨size before, size before + size middle⟩ piece =
      some (before ++ piece ++ after) := by
  have front : takeBytes? (size before) (before ++ middle ++ after) = some before := by
    rw [List.append_assoc, takeBytes?_append]
  have back : dropBytes? (size before + size middle) (before ++ middle ++ after) = some after := by
    rw [← size_append, dropBytes?_append]
  simp only [replace?, front, back, Option.bind_eq_bind, Option.bind_some, Option.pure_def]

/-- The other name for a name. A text that is none stays as it is. -/
def rename (change : Identifier → Identifier) (text : Text) : Text :=
  if name : text.IsName then change ⟨text, name⟩ else text

variable {change : Identifier → Identifier} {text : Text}

theorem rename_of_isName (name : text.IsName) : text.rename change = change ⟨text, name⟩ :=
  dif_pos name

variable (change) in
theorem isName_rename (name : text.IsName) : (text.rename change).IsName := by
  rw [rename_of_isName name]
  exact (change ⟨text, name⟩).property

theorem rename_injective (apart : Function.Injective change) :
    Function.Injective (rename change) := by
  intro first second same
  by_cases name : first.IsName <;> by_cases other : second.IsName
  · rw [rename_of_isName name, rename_of_isName other] at same
    exact congrArg Subtype.val (apart (Subtype.ext same))
  · have named := isName_rename change name
    rw [same, rename, dif_neg other] at named
    exact absurd named other
  · have named := isName_rename change other
    rw [← same, rename, dif_neg name] at named
    exact absurd named name
  · rwa [rename, rename, dif_neg name, dif_neg other] at same

end Text

section Definitions

variable (change : Identifier → Identifier)

/-- A text with the other names in the places of some tokens. The last comes first, so that the
bytes in front of the others stay where they are. -/
def renameTokens? : List Token → Text → Option Text
  | [], text => some text
  | token :: rest, text => do
      let edited ← renameTokens? rest text
      edited.replace? token.span (token.text.rename change)

/-- A text with the other names in the places of its names. -/
def renameNames? (text : Text) : Option Text :=
  renameTokens? change ((lex text).filter (·.kind = .name)) text

def Lexeme.rename (lexeme : Lexeme) : Lexeme :=
  if lexeme.kind = .name then ⟨.name, lexeme.text.rename change⟩ else lexeme

def Chunk.rename (chunk : Chunk) : Chunk := ⟨chunk.gap, chunk.lexeme.rename change⟩

end Definitions

variable {change : Identifier → Identifier}

namespace Lexeme

variable {lexeme : Lexeme}

theorem rename_of_name (name : lexeme.kind = .name) :
    lexeme.rename change = ofName (lexeme.text.rename change) := if_pos name

theorem rename_of_ne (other : lexeme.kind ≠ .name) : lexeme.rename change = lexeme := if_neg other

theorem kind_rename (lexeme : Lexeme) : (lexeme.rename change).kind = lexeme.kind := by
  by_cases name : lexeme.kind = .name
  · rw [rename_of_name name, name]
    rfl
  · rw [rename_of_ne name]

theorem continuedBy_rename (c : Char) :
    (lexeme.rename change).continuedBy c = lexeme.continuedBy c := by
  by_cases name : lexeme.kind = .name
  · rw [rename_of_name name]
    simp only [continuedBy, ofName, name]
  · rw [rename_of_ne name]

theorem isName_text (read : Lexeme.read lexeme.text = lexeme) (name : lexeme.kind = .name) :
    lexeme.text.IsName := by
  rw [← read] at name ⊢
  exact isName_of_read name

variable (change) in
theorem read_rename (visible : lexeme.Visible) (read : Lexeme.read lexeme.text = lexeme) :
    (lexeme.rename change).Visible ∧
      Lexeme.read (lexeme.rename change).text = lexeme.rename change := by
  by_cases name : lexeme.kind = .name
  · have plain : (ofName (lexeme.text.rename change)).Plain :=
      plain_ofName (Text.isName_rename change (isName_text read name))
    rw [rename_of_name name]
    exact ⟨plain.visible, plain.read⟩
  · rw [rename_of_ne name]
    exact ⟨visible, read⟩

/-- A name gives way to one that starts with a letter, too. -/
theorem EndsBefore.rename {before : Lexeme} {rest after : Text} (visible : lexeme.Visible)
    (read : Lexeme.read lexeme.text = lexeme) (ends : before.EndsBefore (lexeme.text ++ rest)) :
    before.EndsBefore ((lexeme.rename change).text ++ after) := by
  by_cases name : lexeme.kind = .name
  · have named := isName_text read name
    obtain ⟨first, tail, spelled, letter⟩ := named.exists_letter
    obtain ⟨other, others, renamed, letterAgain⟩ :=
      (Text.isName_rename change named).exists_letter
    have stops : before.continuedBy first = false := ends first (by simp [spelled])
    rw [rename_of_name name]
    intro c next
    obtain rfl : other = c := by simpa [ofName, renamed] using next
    exact continuedBy_letter letter letterAgain stops
  · obtain ⟨first, tail, spelled, _⟩ := visible
    rw [rename_of_ne name, spelled]
    rwa [spelled] at ends

end Lexeme

namespace Layout

variable {text : Text} {chunks : List Chunk}

/-- What stops in front of a text stops in front of it with other names, too. -/
theorem endsBefore_rename {before : Lexeme} (layout : Layout text chunks)
    (ends : before.EndsBefore text) :
    before.EndsBefore (chunksText (chunks.map (Chunk.rename change))) := by
  cases layout with
  | finish => simpa [chunksText, Chunk.text, Chunk.rename, Lexeme.rename] using ends
  | @lexeme gap after lexeme chunks _ visible read _ _ =>
      cases gap with
      | cons => simpa [Lexeme.EndsBefore, chunksText, Chunk.text, Chunk.rename] using ends
      | nil => simpa [chunksText, Chunk.text, Chunk.rename] using ends.rename visible read

theorem rename (layout : Layout text chunks) :
    Layout (chunksText (chunks.map (Chunk.rename change))) (chunks.map (Chunk.rename change)) := by
  induction layout with
  | finish blank => simpa [chunksText, Chunk.text, Chunk.rename, Lexeme.rename] using .finish blank
  | @lexeme gap after lexeme chunks blank visible read ends following ih =>
      obtain ⟨visibleAgain, readAgain⟩ := Lexeme.read_rename change visible read
      have stops : (lexeme.rename change).EndsBefore
          (chunksText (chunks.map (Chunk.rename change))) := fun c next =>
        (Lexeme.continuedBy_rename c).trans (following.endsBefore_rename ends c next)
      have chunk := Layout.lexeme blank visibleAgain readAgain stops ih
      simpa [chunksText, Chunk.text, Chunk.rename] using chunk

theorem renameTokens?_eq (layout : Layout text chunks) (before : Text) :
    renameTokens? change
        (((placed before.size chunks).map RawToken.token).filter (·.kind = .name))
        (before ++ text) =
      some (before ++ chunksText (chunks.map (Chunk.rename change))) := by
  induction layout generalizing before with
  | finish blank =>
      simp [placed, renameTokens?, chunksText, Chunk.text, Chunk.rename, Lexeme.rename]
  | @lexeme gap after lexeme chunks blank visible read ends following ih =>
      have rest := ih (before ++ gap ++ lexeme.text)
      simp only [Text.size_append] at rest
      rw [placed, List.map_cons, ← List.append_assoc, ← List.append_assoc]
      by_cases name : lexeme.kind = .name
      · -- The text behind is edited already, and the bytes in front are still those of before.
        have replaced := Text.replace?_append (before ++ gap) lexeme.text
          (chunksText (chunks.map (Chunk.rename change))) (lexeme.text.rename change)
        simp only [Text.size_append] at replaced
        rw [List.filter_cons_of_pos (by simpa using name), renameTokens?, rest]
        simp only [Option.bind_eq_bind, Option.bind_some]
        refine replaced.trans ?_
        simp [chunksText, Chunk.text, Chunk.rename, Lexeme.rename_of_name name, Lexeme.ofName]
      · rw [List.filter_cons_of_neg (by simpa using name), rest]
        simp [chunksText, Chunk.text, Chunk.rename, Lexeme.rename_of_ne name]

end Layout

/-- All names are written. -/
theorem filter_name_weave (armed : Bool) (raws : List RawToken) :
    (weave armed raws).filter (·.kind = .name) =
      (raws.map RawToken.token).filter (·.kind = .name) := by
  induction raws generalizing armed with
  | nil => rfl
  | cons raw rest ih =>
      have unnamed : (raw.front armed).filter (·.kind = .name) = [] := by
        rw [List.filter_eq_nil_iff]
        intro token member
        rcases RawToken.eq_of_mem_front member with rfl | rfl <;> simp [Token.synthetic]
      rw [weave, List.filter_append, unnamed, List.nil_append, List.filter_cons, ih, List.map_cons,
        List.filter_cons]

theorem Chunk.respelling_rename : Respelling (rename change) (Lexeme.rename change) where
  lexeme _ := rfl
  startsLine _ := rfl
  kind := Lexeme.kind_rename
  inserted kind written := by
    refine Lexeme.rename_of_ne ?_
    rcases written with rfl | rfl <;> simp [Lexeme.ofKind]

/-- With other names in a text, its tokens and those that are inserted are the same, but for the
names. -/
theorem lex_rename (change : Identifier → Identifier) (text : Text) :
    ∃ edited, renameNames? change text = some edited ∧
      (lex edited).map Token.toLexeme =
        (lex text).map fun token => token.toLexeme.rename change := by
  obtain ⟨chunks, layout⟩ := Layout.exists_chunks text
  refine ⟨chunksText (chunks.map (Chunk.rename change)), ?_,
    Chunk.respelling_rename.lex_eq layout layout.rename⟩
  rw [renameNames?, layout.lex_eq, filter_name_weave]
  exact layout.renameTokens?_eq []

end Bcpl
