import Bcpl.Proofs.Lexing.SpelledOut

/-!
Texts that spell the same row of kinds in another way. What is inserted depends on the kinds of the
lexemes and on the new lines between them alone, so the tokens of such texts answer to each other
one by one (`Respelling.lex_eq`).
-/

namespace Bcpl

/-- A change of the texts of lexemes, and of the blanks in front of them but for whether they start a
new line, that leaves the inserted tokens alone. -/
structure Respelling (respell : Chunk → Chunk) (relabel : Lexeme → Lexeme) : Prop where
  lexeme : ∀ chunk, (respell chunk).lexeme = relabel chunk.lexeme
  startsLine : ∀ chunk, (respell chunk).startsLine = chunk.startsLine
  kind : ∀ lexeme, (relabel lexeme).kind = lexeme.kind
  inserted : ∀ kind, kind = .symbol .semicolon ∨ kind = .keyword .do_ →
    relabel (.ofKind kind) = .ofKind kind

namespace Respelling

variable {respell : Chunk → Chunk} {relabel : Lexeme → Lexeme}
  (respelling : Respelling respell relabel) (armed : Bool)
include respelling

theorem inserted?_eq (chunk : Chunk) :
    (respell chunk).inserted? armed = chunk.inserted? armed := by
  simp only [Chunk.inserted?, respelling.startsLine, respelling.lexeme, respelling.kind]

theorem arms_eq (chunk : Chunk) : (respell chunk).arms armed = chunk.arms armed := by
  simp only [Chunk.arms, respelling.startsLine, respelling.lexeme, respelling.kind]

theorem map_spelled (chunk : Chunk) :
    ((respell chunk).spelled armed).map Chunk.lexeme =
      ((chunk.spelled armed).map Chunk.lexeme).map relabel := by
  have same := respelling.inserted?_eq armed chunk
  cases inserted : chunk.inserted? armed with
  | none =>
      rw [Chunk.spelled_of_none inserted, Chunk.spelled_of_none (same.trans inserted)]
      exact congrArg ([·]) (respelling.lexeme chunk)
  | some kind =>
      have kept := respelling.inserted kind (Chunk.inserted_kind inserted)
      rw [Chunk.spelled_of_some inserted, Chunk.spelled_of_some (same.trans inserted)]
      simp only [List.map_cons, List.map_nil, kept, respelling.lexeme]

theorem map_spellOut (chunks : List Chunk) :
    (spellOut armed (chunks.map respell)).map Chunk.lexeme =
      ((spellOut armed chunks).map Chunk.lexeme).map relabel := by
  induction chunks generalizing armed with
  | nil => rfl
  | cons chunk rest ih =>
      rw [List.map_cons, spellOut, spellOut, List.map_append, List.map_append, List.map_append,
        respelling.map_spelled, respelling.arms_eq, ih]

/-- The tokens of a text that is laid out as the respelled row. -/
theorem lex_eq {text other : Text} {chunks : List Chunk} (layout : Layout text chunks)
    (respelled : Layout other (chunks.map respell)) :
    (lex other).map Token.toLexeme = (lex text).map fun token => relabel token.toLexeme := by
  have lexemes {text : Text} {chunks : List Chunk} (layout : Layout text chunks) :
      (lex text).map Token.toLexeme = (spellOut false chunks).map Chunk.lexeme := by
    rw [layout.lex_eq, map_lexeme_weave, map_chunk_placed]
  calc (lex other).map Token.toLexeme
      = ((spellOut false chunks).map Chunk.lexeme).map relabel := by
        rw [lexemes respelled, respelling.map_spellOut]
    _ = (lex text).map fun token => relabel token.toLexeme := by
        rw [← lexemes layout, List.map_map]
        rfl

end Respelling

end Bcpl
