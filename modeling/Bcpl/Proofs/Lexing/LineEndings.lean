import Bcpl.Proofs.Lexing.Respacing
import Bcpl.Proofs.Lexing.Respelling
import Bcpl.Proofs.Text.LineEndings

/-!
Texts whose lines end in a carriage return and a line feed. Without those carriage returns a text is
laid out as the same row of lexemes, and each lexeme loses those in its own text
(`Layout.dropReturns`), so the same tokens are read and inserted (`lex_dropReturns`).
-/

namespace Bcpl

def Lexeme.dropReturns (lexeme : Lexeme) : Lexeme := ⟨lexeme.kind, lexeme.text.dropReturns⟩

def Chunk.dropReturns (chunk : Chunk) : Chunk := ⟨chunk.gap.dropReturns, chunk.lexeme.dropReturns⟩

namespace Lexeme

variable {lexeme : Lexeme}

/-- The lexemes that may hold a carriage return are remarks and string constants, ended or open. -/
theorem return_cases (visible : lexeme.Visible) (read : Lexeme.read lexeme.text = lexeme) :
    '\r' ∉ lexeme.text ∨
    (∃ line, '\n' ∉ line ∧ (lexeme = ⟨.comment, '/' :: '/' :: line⟩ ∨
      lexeme = ⟨.comment, '/' :: '/' :: (line ++ ['\n'])⟩)) ∨
    ∃ inner, '"' ∉ inner ∧ (lexeme = ⟨.illegal, '"' :: inner⟩ ∨
      lexeme = ⟨.stringConst, '"' :: (inner ++ ['"'])⟩) := by
  have plain {first tail} (spelled : lexeme.text = first :: tail)
      (letters : ∀ c ∈ first :: tail, c.isAlphanum = true) : '\r' ∉ lexeme.text := by
    intro inside
    rw [spelled] at inside
    exact absurd (letters '\r' inside) (by decide)
  have shape := read_shape lexeme.text
  rw [read] at shape
  unfold Shape at shape
  split at shape
  · simp [shape.1]
  · obtain ⟨rest, _, remark⟩ := shape
    refine .inr (.inl ?_)
    by_cases ended : '\n' ∈ rest
    · obtain ⟨line, after, rfl, inside⟩ := List.eq_append_cons_of_mem ended
      rw [remark_of_mem inside] at remark
      exact ⟨line, inside, .inr remark⟩
    · rw [remark_of_notMem ended] at remark
      exact ⟨rest, ended, .inl remark⟩
  · obtain ⟨first, rest, _, letter, spelled⟩ := shape
    refine .inl (plain spelled (List.forall_mem_cons.mpr ⟨by simp [Char.isAlphanum, letter], ?_⟩))
    exact fun c member => List.mem_takeWhile_imp member
  · obtain ⟨first, rest, _, letter, spelled⟩ := shape
    refine .inl (plain spelled (List.forall_mem_cons.mpr ⟨by simp [Char.isAlphanum, letter], ?_⟩))
    exact fun c member => List.mem_takeWhile_imp member
  · obtain ⟨first, rest, _, digit, spelled⟩ := shape
    refine .inl (plain spelled (List.forall_mem_cons.mpr ⟨by simp [Char.isAlphanum, digit], ?_⟩))
    exact fun c member => by simp [Char.isAlphanum, List.mem_takeWhile_imp member]
  · next constant =>
      obtain ⟨rest, _, spelled⟩ := shape
      refine .inr (.inr ⟨rest.takeWhile (· != '"'), fun inside => ?_, .inr ?_⟩)
      · simpa using List.mem_takeWhile_imp inside
      · rw [← constant]
        exact congrArg (Lexeme.mk lexeme.kind) spelled
  · next symbol _ =>
      rw [shape]
      exact .inl fun inside => (Symbol.plain_of_mem_spelling inside).2.2.2.2.1 rfl
  · next illegal =>
      rcases illegal_cases read illegal with ⟨inner, spelled, unquoted⟩ | ⟨_, single⟩
      · refine .inr (.inr ⟨inner, unquoted, .inl ?_⟩)
        rw [← illegal]
        exact congrArg (Lexeme.mk lexeme.kind) spelled
      · obtain ⟨c, tail, spelled, shown⟩ := visible
        obtain rfl : tail = [] := by simpa [spelled] using single
        refine .inl fun inside => ?_
        rw [spelled] at inside
        obtain rfl := List.mem_singleton.mp inside
        contradiction

/-- A lexeme that ends in a carriage return takes in a line feed behind it. -/
theorem continuedBy_newline (visible : lexeme.Visible) (read : Lexeme.read lexeme.text = lexeme)
    (last : lexeme.text.getLast? = some '\r') : lexeme.continuedBy '\n' = true := by
  rcases return_cases visible read with
    absent | ⟨line, _, rfl | rfl⟩ | ⟨inner, _, rfl | rfl⟩
  · exact absurd (List.mem_of_getLast? last) absent
  · simp [continuedBy, last]
  · rw [← List.cons_append, ← List.cons_append, List.getLast?_concat] at last
    simp at last
  · simp [continuedBy]
  · rw [← List.cons_append, List.getLast?_concat] at last
    simp at last

/-- A lexeme without its carriage returns is read as such, and goes on with the same characters. -/
theorem read_dropReturns (visible : lexeme.Visible) (read : Lexeme.read lexeme.text = lexeme) :
    Lexeme.read lexeme.dropReturns.text = lexeme.dropReturns ∧
      ∀ c, lexeme.dropReturns.continuedBy c = lexeme.continuedBy c := by
  have unchanged (absent : '\r' ∉ lexeme.text ∨ '\n' ∉ lexeme.text) :
      lexeme.dropReturns = lexeme := by
    rw [dropReturns, Text.dropReturns_of_notMem absent]
  rcases return_cases visible read with absent | ⟨line, unended, remark⟩ | ⟨inner, unquoted, quoted⟩
  · rw [unchanged (.inl absent)]
    exact ⟨read, fun _ => rfl⟩
  · rcases remark with rfl | rfl
    · rw [unchanged (.inr (by simp [unended]))]
      exact ⟨read, fun _ => rfl⟩
    · have dropped : dropReturns ⟨.comment, '/' :: '/' :: (line ++ ['\n'])⟩ =
          ⟨.comment, '/' :: '/' :: (Text.chomp line ++ ['\n'])⟩ := by
        rw [dropReturns, Text.dropReturns_cons_of_ne (by decide),
          Text.dropReturns_cons_of_ne (by decide), Text.dropReturns_line unended]
        rfl
      rw [dropped]
      refine ⟨remark_of_mem (fun member => unended (Text.chomp_subset line member)) [], fun c => ?_⟩
      rw [continuedBy_ended_remark, continuedBy_ended_remark]
  · have still : '"' ∉ Text.dropReturns inner :=
      fun member => unquoted (Text.mem_of_mem_dropReturns member)
    rcases quoted with rfl | rfl
    · rw [dropReturns, Text.dropReturns_cons_of_ne (by decide)]
      refine ⟨?_, fun c => by simp [continuedBy]⟩
      rw [read_quote]
      exact quotation_of_notMem still
    · have closed : Text.dropReturns ['"'] = ['"'] := by decide
      rw [dropReturns, Text.dropReturns_cons_of_ne (by decide), Text.dropReturns_append (by simp),
        closed]
      refine ⟨?_, fun c => rfl⟩
      rw [read_quote]
      exact quotation_of_mem still []

/-- A lexeme takes in every blank or none. -/
theorem continuedBy_blank {c d : Char} (first : Lexer.isBlank c = true)
    (second : Lexer.isBlank d = true) : lexeme.continuedBy c = lexeme.continuedBy d := by
  obtain ⟨noLetter, noDigit, _⟩ := isBlank_plain first
  obtain ⟨noLetterAgain, noDigitAgain, _⟩ := isBlank_plain second
  obtain ⟨strokes, longer⟩ := mark_not_continued first lexeme.text
  obtain ⟨strokesAgain, longerAgain⟩ := mark_not_continued second lexeme.text
  unfold continuedBy
  split
  · rw [noLetter, noLetterAgain]
  · rw [noLetter, noLetterAgain]
  · rw [noDigit, noDigitAgain]
  · rfl
  · rfl
  · rw [strokes, longer, strokesAgain, longerAgain]
  · rw [strokes, longer, strokesAgain, longerAgain]
  · rfl

theorem EndsBefore.dropReturns {rest : Text} (visible : lexeme.Visible)
    (read : Lexeme.read lexeme.text = lexeme) (ends : lexeme.EndsBefore rest) :
    lexeme.dropReturns.EndsBefore rest.dropReturns := by
  intro c next
  rw [(read_dropReturns visible read).2]
  rcases Text.head?_dropReturns next with same | ⟨dropped, rfl⟩
  · exact ends c same
  · rw [continuedBy_blank (d := '\r') (by decide) (by decide)]
    exact ends '\r' dropped

end Lexeme

namespace Layout

variable {text : Text} {chunks : List Chunk}

theorem dropReturns (layout : Layout text chunks) :
    Layout text.dropReturns (chunks.map Chunk.dropReturns) := by
  induction layout with
  | finish blank =>
      exact .finish fun c member => blank c (Text.mem_of_mem_dropReturns member)
  | @lexeme gap rest lexeme chunks blank visible read ends following ih =>
      obtain ⟨c, tail, spelled, shown⟩ := visible
      have behindGap : ¬(gap.getLast? = some '\r' ∧ (lexeme.text ++ rest).head? = some '\n') := by
        rintro ⟨_, feed⟩
        rw [spelled] at feed
        obtain rfl := Option.some.inj feed
        contradiction
      have behindLexeme : ¬(lexeme.text.getLast? = some '\r' ∧ rest.head? = some '\n') := by
        rintro ⟨last, feed⟩
        have stops := ends '\n' feed
        rw [Lexeme.continuedBy_newline ⟨c, tail, spelled, shown⟩ read last] at stops
        contradiction
      rw [Text.dropReturns_append behindGap, Text.dropReturns_append behindLexeme]
      refine .lexeme (fun d member => blank d (Text.mem_of_mem_dropReturns member))
        ⟨c, Text.dropReturns tail, ?_, shown⟩
        (Lexeme.read_dropReturns ⟨c, tail, spelled, shown⟩ read).1
        (ends.dropReturns ⟨c, tail, spelled, shown⟩ read) ih
      have noReturn : c ≠ '\r' := by
        rintro rfl
        contradiction
      exact (congrArg Text.dropReturns spelled).trans (Text.dropReturns_cons_of_ne noReturn)

end Layout

theorem Chunk.respelling_dropReturns : Respelling dropReturns Lexeme.dropReturns where
  lexeme _ := rfl
  startsLine chunk := by
    have same : '\n' ∈ chunk.gap.dropReturns ↔ '\n' ∈ chunk.gap := Text.mem_dropReturns (by decide)
    rw [startsLine, startsLine, Bool.eq_iff_iff, List.contains_iff_mem, List.contains_iff_mem]
    exact same
  kind _ := rfl
  inserted kind written := by rcases written with rfl | rfl <;> decide

/-- Carriage returns in front of line feeds do not show in the kinds of the tokens, and they are
left out of a token that holds some. -/
theorem lex_dropReturns (text : Text) :
    (lex text.dropReturns).map Token.toLexeme =
      (lex text).map fun token => token.toLexeme.dropReturns := by
  obtain ⟨chunks, layout⟩ := Layout.exists_chunks text
  exact Chunk.respelling_dropReturns.lex_eq layout layout.dropReturns

end Bcpl
