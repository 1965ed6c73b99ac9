import Bcpl.Proofs.Grammar.Completeness
import Bcpl.Proofs.Lexing.Respacing

/-!
The layout of a program does not matter, except for the new lines that stand for semicolons
(`parse_respace`).
-/

namespace Bcpl

/-- Blanks that may stand in front of a token of a text in the place of those that do. In front of a
token that got a semicolon they hold a new line, and tokens are never pushed together. -/
def MayReplace (text : Text) (raw : RawToken) (gap : Text) : Prop :=
  (∀ c ∈ gap, Lexer.isBlank c = true) ∧
    if Token.synthetic (.symbol .semicolon) raw.token.span.start ∈ lex text then '\n' ∈ gap
    else gap = raw.gap ∨ gap ≠ []

instance (text : Text) (raw : RawToken) (gap : Text) : Decidable (MayReplace text raw gap) :=
  decidable_of_iff (gap.all Lexer.isBlank = true ∧
    if Token.synthetic (.symbol .semicolon) raw.token.span.start ∈ lex text then '\n' ∈ gap
    else gap = raw.gap ∨ gap ≠ []) (and_congr_left' List.all_eq_true)

theorem Layout.plainTokens_eq {text : Text} {chunks : List Chunk} (layout : Layout text chunks) :
    (plainTokens text).map Token.toLexeme = plainLexemes false chunks := by
  have lexemes := map_lexeme_weave false (placed 0 chunks)
  rw [map_chunk_placed, ← layout.lex_eq] at lexemes
  rw [plainLexemes, ← lexemes, List.filter_map]
  rfl

/-- The program in a text depends on the lexemes of its tokens alone. -/
theorem parse_eq_ok_of_lexemes {first second : Text} {program : Program}
    (same : (plainTokens first).map Token.toLexeme = (plainTokens second).map Token.toLexeme)
    (parsed : parse first = .ok program) : parse second = .ok program := by
  have significant : (significantTokens second).map Token.toLexeme =
      (significantTokens first).map Token.toLexeme := by
    have shorter := congrArg List.dropLast same
    rw [← List.map_dropLast, ← List.map_dropLast] at shorter
    exact shorter.symm
  apply parse_eq_ok_of_derives
  rw [significant]
  exact derives_of_parse parsed

theorem mem_plainLexemes {chunk : Chunk} {chunks : List Chunk} (armed : Bool)
    (member : chunk ∈ chunks) (significant : chunk.lexeme.kind ≠ .comment) :
    chunk.lexeme ∈ plainLexemes armed chunks := by
  induction chunks generalizing armed with
  | nil => contradiction
  | cons first rest ih =>
      rcases List.mem_cons.mp member with rfl | later
      · cases inserted : chunk.inserted? armed with
        | none =>
            rw [plainLexemes_of_none significant inserted]
            exact List.mem_cons_self
        | some kind =>
            rw [plainLexemes_of_some significant inserted]
            exact List.mem_cons_of_mem _ List.mem_cons_self
      · have behind := ih (first.arms armed) later
        simp only [plainLexemes, spellOut, List.map_append, List.filter_append, List.mem_append]
        exact .inr behind

theorem Kind.Neighbours.readable {last : Option Kind} {kinds : List Kind} {kind : Kind}
    (neighbours : Kind.Neighbours last kinds) (member : kind ∈ kinds) : kind ≠ .illegal := by
  induction kinds generalizing last with
  | nil => contradiction
  | cons first rest ih =>
      rcases List.mem_cons.mp member with rfl | later
      · exact neighbours.1.readable
      · exact ih neighbours.2 later

theorem Layout.legal_of_parse {text : Text} {chunks : List Chunk} {program : Program}
    (layout : Layout text chunks) (parsed : parse text = .ok program) :
    ∀ chunk ∈ chunks, chunk.lexeme.kind ≠ .illegal := by
  intro chunk member illegal
  have listed := mem_plainLexemes false member (by simp [illegal])
  rw [← layout.plainTokens_eq] at listed
  obtain ⟨token, member, same⟩ := List.mem_map.mp listed
  have kind : token.kind = .illegal := (congrArg Lexeme.kind same).trans illegal
  exact (neighbours_of_parse parsed).readable (List.mem_map_of_mem member) kind

theorem respacing_of_mayReplace {text : Text} {offset : Nat} {armed : Bool} {chunks : List Chunk}
    {gaps : List Text} (within : ∀ token ∈ weave armed (placed offset chunks), token ∈ lex text)
    (replaced : List.Forall₂ (MayReplace text) (placed offset chunks) gaps) :
    Respacing armed chunks gaps := by
  induction chunks generalizing offset armed gaps with
  | nil =>
      cases replaced
      exact .nil
  | cons chunk rest ih =>
      cases replaced with
      | cons first others =>
          obtain ⟨blank, kept⟩ := first
          refine .cons blank ?_ (fun inserted => ?_) (ih (fun token member => ?_) others)
          · split at kept
            · exact .inr (List.ne_nil_of_mem kept)
            · exact kept
          · have member : Token.synthetic (.symbol .semicolon) (offset + chunk.gap.size) ∈
                lex text := by
              apply within
              rw [placed, weave, RawToken.front_of_some (by exact inserted)]
              exact List.mem_append_left _ List.mem_cons_self
            rwa [if_pos member] at kept
          · apply within
            rw [placed, weave]
            exact List.mem_append_right _ (List.mem_cons_of_mem _ member)

/-- A text that holds a program holds the same program with other blanks between its tokens, as long
as there still is a new line wherever one stands for a semicolon. -/
theorem parse_respace {text : Text} {program : Program} {gaps : List Text}
    (parsed : parse text = .ok program)
    (replaced : List.Forall₂ (MayReplace text) (rawTokens (Cursor.ofText text)) gaps) :
    parse (respace ((rawTokens (Cursor.ofText text)).map RawToken.chunk) gaps) = .ok program := by
  obtain ⟨chunks, layout⟩ := Layout.exists_chunks text
  have raws : rawTokens (Cursor.ofText text) = placed 0 chunks := layout.rawTokens_eq rfl
  have lexemes := layout.plainTokens_eq
  have neighbours := neighbours_of_parse parsed
  have kinds : (plainTokens text).map (·.kind) = (plainLexemes false chunks).map Lexeme.kind := by
    rw [← lexemes, List.map_map]
    rfl
  rw [kinds] at neighbours
  have legal : ∀ chunk ∈ chunks, chunk.lexeme.kind ≠ .illegal := by
    intro chunk member illegal
    have listed := mem_plainLexemes false member (by simp [illegal])
    exact neighbours.readable (List.mem_map_of_mem listed) illegal
  rw [raws] at replaced
  have respacing : Respacing false chunks gaps :=
    respacing_of_mayReplace (fun token member => by rwa [layout.lex_eq]) replaced
  obtain ⟨others, written, row⟩ := layout.respaced legal respacing
  have same : plainLexemes false others = plainLexemes false chunks :=
    row.plainLexemes_eq neighbours (by simp) (by simp)
  rw [raws, map_chunk_placed]
  apply parse_eq_ok_of_lexemes _ parsed
  rw [lexemes, written.plainTokens_eq, same]

/-- The first entry is taken apart, the second one stays on a line of its own, and the remark at the
end takes in a space. -/
theorem parse_respace_block :
    parse "global $( A : 1\n B = 2 $) // last".toList =
        .ok ⟨[.global [⟨"A".toList, 1⟩, ⟨"B".toList, 2⟩]], []⟩ ∧
      parse "global\n$( A :\n1\r\n\nB = 2 $)\n// last ".toList =
        .ok ⟨[.global [⟨"A".toList, 1⟩, ⟨"B".toList, 2⟩]], []⟩ := by
  have parsed : parse "global $( A : 1\n B = 2 $) // last".toList =
      .ok ⟨[.global [⟨"A".toList, 1⟩, ⟨"B".toList, 2⟩]], []⟩ := by
    decide +kernel
  let gaps := ["", "\n", " ", " ", "\n", "\r\n\n", " ", " ", " ", "\n", " "].map String.toList
  have replaced : List.Forall₂ (MayReplace "global $( A : 1\n B = 2 $) // last".toList)
      (rawTokens (Cursor.ofText "global $( A : 1\n B = 2 $) // last".toList)) gaps := by
    decide +kernel
  have written : respace ((rawTokens (Cursor.ofText
      "global $( A : 1\n B = 2 $) // last".toList)).map RawToken.chunk) gaps =
      "global\n$( A :\n1\r\n\nB = 2 $)\n// last ".toList := by
    decide +kernel
  rw [← written]
  exact ⟨parsed, parse_respace parsed replaced⟩

end Bcpl
