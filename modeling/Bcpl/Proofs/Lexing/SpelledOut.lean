import Bcpl.Proofs.Lexing.Lossless

/-!
A `;` or `do` that the layout of lines stands for may as well be written. Writing all of them into
the text gives a text that leaves nothing to insert and has the same lexemes (`lex_writeOut`).
-/

namespace Bcpl

/-- A text with some tokens written into it, each with a space behind it. The last comes first, so
that the bytes in front of the others stay where they are. -/
def writeIn? : List Token → Text → Option Text
  | [], text => some text
  | token :: rest, text => do
      let edited ← writeIn? rest text
      edited.insertAt? token.span.start (token.text ++ [' '])

/-- A text with its inserted tokens written out. -/
def writeOut? (text : Text) : Option Text := writeIn? ((lex text).filter Token.isInserted) text

def Lexeme.ofKind (kind : Kind) : Lexeme := ⟨kind, kind.spelling?.getD []⟩

/-- A chunk with what belongs in front of it written out. -/
def Chunk.spelled (armed : Bool) (chunk : Chunk) : List Chunk :=
  match chunk.inserted? armed with
  | some kind => [⟨chunk.gap, Lexeme.ofKind kind⟩, ⟨[' '], chunk.lexeme⟩]
  | none => [chunk]

def spellOut : Bool → List Chunk → List Chunk
  | _, [] => []
  | armed, chunk :: rest => chunk.spelled armed ++ spellOut (chunk.arms armed) rest

def chunksText (chunks : List Chunk) : Text := chunks.flatMap Chunk.text

namespace Chunk

variable {armed : Bool} {chunk : Chunk} {kind : Kind}

theorem spelled_of_none (nothing : chunk.inserted? armed = none) :
    chunk.spelled armed = [chunk] := by
  simp only [spelled, nothing]

theorem spelled_of_some (inserted : chunk.inserted? armed = some kind) :
    chunk.spelled armed = [⟨chunk.gap, Lexeme.ofKind kind⟩, ⟨[' '], chunk.lexeme⟩] := by
  simp only [spelled, inserted]

theorem inserted?_ofKind (inserted : chunk.inserted? armed = some kind) :
    inserted? armed ⟨chunk.gap, Lexeme.ofKind kind⟩ = none ∧
      arms armed ⟨chunk.gap, Lexeme.ofKind kind⟩ = false := by
  rcases inserted_kind inserted with rfl | rfl
  · have plain : Kind.isSemicolonStart (.symbol .semicolon) = false ∧
        Kind.isDoStart (.symbol .semicolon) = false ∧
        Kind.isCommandEnd (.symbol .semicolon) = false := by decide
    simp [inserted?, arms, Lexeme.ofKind, plain]
  · have plain : Kind.isSemicolonStart (.keyword .do_) = false ∧
        Kind.isDoStart (.keyword .do_) = false ∧
        Kind.isCommandEnd (.keyword .do_) = false := by decide
    simp [inserted?, arms, Lexeme.ofKind, plain]

theorem inserted?_nil {lexeme : Lexeme} (inserted : inserted? armed ⟨[], lexeme⟩ = some kind) :
    kind = .keyword .do_ ∧ ∃ word, lexeme.kind = .keyword word := by
  simp only [inserted?, startsLine, List.contains_nil, Bool.and_false, Bool.false_and,
    Bool.not_false, Bool.and_true, Bool.false_eq_true, if_false] at inserted
  split at inserted
  · next starts =>
      refine ⟨(Option.some.inj inserted).symm, ?_⟩
      cases same : lexeme.kind with
      | keyword word => exact ⟨word, rfl⟩
      | _ => simp [same, Kind.isDoStart] at starts
  · contradiction

theorem inserted?_false : chunk.inserted? false = none := by
  simp [inserted?]

theorem arms_false : chunk.arms false = chunk.lexeme.kind.isCommandEnd := by
  simp [arms]

end Chunk

theorem spellOut_finish (armed : Bool) (gap : Text) :
    spellOut armed [⟨gap, ⟨.eof, []⟩⟩] = [⟨gap, ⟨.eof, []⟩⟩] := by
  have nothing : Chunk.inserted? armed ⟨gap, ⟨.eof, []⟩⟩ = none := Chunk.inserted?_of_eof rfl armed
  rw [spellOut, Chunk.spelled_of_none nothing]
  rfl

theorem weave_cons_of_none {armed : Bool} {raw : RawToken} {rest : List RawToken}
    (nothing : raw.chunk.inserted? armed = none) :
    weave armed (raw :: rest) = raw.token :: weave (raw.chunk.arms armed) rest := by
  rw [weave, RawToken.front_of_none nothing, List.nil_append]

theorem filter_weave_cons {armed : Bool} {raw : RawToken} {rest : List RawToken}
    (written : raw.token.isInserted = false) :
    (weave armed (raw :: rest)).filter Token.isInserted =
      raw.front armed ++ (weave (raw.chunk.arms armed) rest).filter Token.isInserted := by
  have kept : (raw.front armed).filter Token.isInserted = raw.front armed :=
    List.filter_eq_self.mpr fun token member => (RawToken.isInserted_of_mem_front member).1
  rw [weave, List.filter_append, kept, List.filter_cons_of_neg (by simp [written])]

theorem map_chunk_placed (offset : Nat) (chunks : List Chunk) :
    (placed offset chunks).map RawToken.chunk = chunks := by
  induction chunks generalizing offset with
  | nil => rfl
  | cons chunk rest ih => simp only [placed, List.map_cons, RawToken.chunk, ih]

theorem map_lexeme_placed (offset : Nat) (chunks : List Chunk) :
    ((placed offset chunks).map RawToken.token).map Token.toLexeme = chunks.map Chunk.lexeme := by
  rw [List.map_map, ← map_chunk_placed offset chunks, List.map_map, map_chunk_placed]
  rfl

theorem map_lexeme_weave (armed : Bool) (raws : List RawToken) :
    (weave armed raws).map Token.toLexeme =
      (spellOut armed (raws.map RawToken.chunk)).map Chunk.lexeme := by
  induction raws generalizing armed with
  | nil => rfl
  | cons raw rest ih =>
      rw [weave, List.map_append, List.map_cons, ih, List.map_cons, spellOut, List.map_append]
      cases inserted : raw.chunk.inserted? armed with
      | none =>
          rw [RawToken.front_of_none inserted, Chunk.spelled_of_none inserted]
          rfl
      | some kind =>
          rw [RawToken.front_of_some inserted, Chunk.spelled_of_some inserted]
          rfl

theorem weave_placed_spellOut (armed : Bool) (offset : Nat) (chunks : List Chunk) :
    weave armed (placed offset (spellOut armed chunks)) =
      (placed offset (spellOut armed chunks)).map RawToken.token := by
  induction chunks generalizing armed offset with
  | nil => rfl
  | cons chunk rest ih =>
      cases inserted : chunk.inserted? armed with
      | none =>
          simp only [spellOut, Chunk.spelled_of_none inserted, List.singleton_append, placed]
          rw [weave_cons_of_none (by exact inserted), List.map_cons]
          exact congrArg _ (ih _ _)
      | some kind =>
          obtain ⟨nothing, disarmed⟩ := Chunk.inserted?_ofKind inserted
          have rearmed : Chunk.arms false ⟨[' '], chunk.lexeme⟩ = chunk.arms armed := by
            rw [Chunk.arms_false, Chunk.arms_of_inserted inserted]
          simp only [spellOut, Chunk.spelled_of_some inserted, List.cons_append, List.nil_append,
            placed]
          rw [weave_cons_of_none (by exact nothing), RawToken.chunk, disarmed,
            weave_cons_of_none Chunk.inserted?_false, RawToken.chunk, rearmed, ih]
          rfl

namespace Lexeme

/-- A lexeme that stops in front of one letter stops in front of all. -/
theorem continuedBy_letter {lexeme : Lexeme} {c d : Char} (first : c.isAlpha = true)
    (second : d.isAlpha = true) (stops : lexeme.continuedBy c = false) :
    lexeme.continuedBy d = false := by
  have wordLetter : c.isAlphanum = true ∧ d.isAlphanum = true := by
    simp [Char.isAlphanum, first, second]
  have noDigit := isDigit_of_isAlpha second
  have noStroke : lexeme.text ++ [d] ≠ ['/', '/'] := by
    intro same
    have last := congrArg List.getLast? same
    simp only [List.getLast?_concat] at last
    obtain rfl : d = '/' := Option.some.inj last
    simp at second
  have noSymbol : ∀ symbol ∈ Symbol.all, symbol.spelling ≠ lexeme.text ++ [d] := by
    intro symbol _ same
    have member : d ∈ symbol.spelling := by simp [same]
    have plain := Symbol.plain_of_mem_spelling member
    rw [wordLetter.2] at plain
    exact absurd plain.1 (by decide)
  unfold continuedBy at stops ⊢
  split at stops <;> simp_all

theorem ofKind_written {kind : Kind} (inserted : kind = .symbol .semicolon ∨ kind = .keyword .do_) :
    (ofKind kind).Visible ∧ read (ofKind kind).text = ofKind kind ∧
      ∀ rest, (ofKind kind).EndsBefore (' ' :: rest) := by
  have spaced : ∀ rest, (ofKind kind).continuedBy ' ' = false →
      (ofKind kind).EndsBefore (' ' :: rest) := by
    intro rest stops c next
    rwa [← Option.some.inj next]
  rcases inserted with rfl | rfl
  · exact ⟨⟨_, _, rfl, by decide⟩, by decide, fun rest => spaced rest (by decide)⟩
  · exact ⟨⟨_, _, rfl, by decide⟩, by decide, fun rest => spaced rest (by decide)⟩

theorem letter_of_keyword {text : Text} {word : Keyword} :
    (read text).kind = .keyword word → ∃ c tail, text = c :: tail ∧ c.isAlpha = true := by
  fun_cases read text with
  | case1 => simp
  | case2 rest => simp [remark]
  | case3 first rest _ letter => exact fun _ => ⟨first, rest, rfl, letter⟩
  | case4 => simp [digits]
  | case5 =>
      unfold quotation
      split <;> simp
  | case6 first rest =>
      rcases mark_spelled first rest with same | ⟨symbol, same, _⟩ <;> simp [same]

end Lexeme

namespace Layout

variable {text : Text} {chunks : List Chunk} (layout : Layout text chunks)
include layout

theorem endsBefore_spellOut {before : Lexeme} (armed : Bool) (ends : before.EndsBefore text) :
    before.EndsBefore (chunksText (spellOut armed chunks)) := by
  cases layout with
  | @finish _ blank =>
      rw [spellOut_finish]
      simpa [chunksText, Chunk.text] using ends
  | @lexeme gap after lexeme chunks blank visible read _ following =>
      obtain ⟨first, tail, spelled, _⟩ := visible
      cases inserted : Chunk.inserted? armed ⟨gap, lexeme⟩ with
      | none =>
          rw [spellOut, Chunk.spelled_of_none inserted]
          cases gap <;> simpa [Lexeme.EndsBefore, chunksText, Chunk.text, spelled] using ends
      | some kind =>
          rw [spellOut, Chunk.spelled_of_some inserted]
          cases gap with
          | cons c gap => simpa [Lexeme.EndsBefore, chunksText, Chunk.text] using ends
          | nil =>
              -- Only a `do` can come without a blank, and it starts with a letter as what follows.
              obtain ⟨rfl, word, reserved⟩ := Chunk.inserted?_nil inserted
              rw [← read] at reserved
              obtain ⟨c, rest, begun, letter⟩ := Lexeme.letter_of_keyword reserved
              have stops : before.continuedBy c = false := ends c (by simp [begun])
              intro d next
              obtain rfl : 'd' = d := Option.some.inj next
              exact Lexeme.continuedBy_letter letter (by decide) stops

theorem spelledOut (armed : Bool) :
    Layout (chunksText (spellOut armed chunks)) (spellOut armed chunks) := by
  induction layout generalizing armed with
  | @finish gap blank =>
      rw [spellOut_finish]
      simpa [chunksText, Chunk.text] using Layout.finish blank
  | @lexeme gap after lexeme chunks blank visible read ends following ih =>
      have rest := ih (Chunk.arms armed ⟨gap, lexeme⟩)
      have stops := following.endsBefore_spellOut (Chunk.arms armed ⟨gap, lexeme⟩) ends
      cases inserted : Chunk.inserted? armed ⟨gap, lexeme⟩ with
      | none =>
          have chunk := Layout.lexeme blank visible read stops rest
          simpa [spellOut, Chunk.spelled_of_none inserted, chunksText, Chunk.text] using chunk
      | some kind =>
          obtain ⟨shown, alone, final⟩ := Lexeme.ofKind_written (Chunk.inserted_kind inserted)
          have space : ∀ c ∈ [' '], Lexer.isBlank c := by simp [Lexer.isBlank]
          have chunk := Layout.lexeme space visible read stops rest
          have both := Layout.lexeme blank shown alone (final _) chunk
          simpa [spellOut, Chunk.spelled_of_some inserted, chunksText, Chunk.text] using both

theorem writeIn?_eq (before : Text) (armed : Bool) :
    writeIn? ((weave armed (placed before.size chunks)).filter Token.isInserted) (before ++ text) =
      some (before ++ chunksText (spellOut armed chunks)) := by
  induction layout generalizing before armed with
  | @finish gap blank =>
      have nothing : Chunk.inserted? armed ⟨gap, ⟨.eof, []⟩⟩ = none :=
        Chunk.inserted?_of_eof rfl armed
      have written := (Layout.finish blank).isInserted_of_mem before.size List.mem_cons_self
      rw [placed, filter_weave_cons written, RawToken.front_of_none (by exact nothing),
        spellOut_finish]
      simp [placed, weave, writeIn?, chunksText, Chunk.text]
  | @lexeme gap after lexeme chunks blank visible read ends following ih =>
      have rest := ih (before ++ gap ++ lexeme.text) (Chunk.arms armed ⟨gap, lexeme⟩)
      have written := (Layout.lexeme blank visible read ends following).isInserted_of_mem
        before.size List.mem_cons_self
      simp only [Text.size_append] at rest
      rw [placed, filter_weave_cons written, RawToken.chunk, ← List.append_assoc,
        ← List.append_assoc]
      cases inserted : Chunk.inserted? armed ⟨gap, lexeme⟩ with
      | none =>
          rw [RawToken.front_of_none (by exact inserted), List.nil_append, rest]
          simp [spellOut, Chunk.spelled_of_none inserted, chunksText, Chunk.text]
      | some kind =>
          -- The text behind is edited already, and the bytes in front are still those of before.
          have placedAt := Text.insertAt?_append (before ++ gap)
            (lexeme.text ++ chunksText (spellOut (Chunk.arms armed ⟨gap, lexeme⟩) chunks))
            ((Lexeme.ofKind kind).text ++ [' '])
          rw [RawToken.front_of_some (by exact inserted), List.singleton_append, writeIn?, rest]
          simp only [Text.size_append, ← List.append_assoc] at placedAt
          simp only [Option.bind_eq_bind, Option.bind_some]
          refine placedAt.trans ?_
          simp [spellOut, Chunk.spelled_of_some inserted, chunksText, Chunk.text]

end Layout

/-- An inserted token means what writing it means: with every inserted token written out, nothing is
inserted any more, and the kinds and texts of the tokens stay what they were. -/
theorem lex_writeOut (text : Text) :
    ∃ edited, writeOut? text = some edited ∧
      (∀ token ∈ lex edited, token.kind ≠ .eof → token.span.isEmpty = false) ∧
      (lex edited).map Token.toLexeme = (lex text).map Token.toLexeme := by
  obtain ⟨chunks, layout⟩ := Layout.exists_chunks text
  have written := layout.spelledOut false
  have edited := layout.writeIn?_eq [] false
  have tokens := written.lex_eq.trans (weave_placed_spellOut false 0 chunks)
  refine ⟨chunksText (spellOut false chunks), ?_, ?_, ?_⟩
  · rw [writeOut?, layout.lex_eq]
    exact edited
  · rw [tokens, List.forall_mem_map]
    intro raw member unfinished
    have kept := written.isInserted_of_mem 0 member
    simpa [Token.isInserted, unfinished] using kept
  · rw [tokens, map_lexeme_placed, layout.lex_eq, map_lexeme_weave, map_chunk_placed]

end Bcpl
