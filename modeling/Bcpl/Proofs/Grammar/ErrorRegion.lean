import Bcpl.Proofs.Grammar.Concatenation
import Bcpl.Proofs.Grammar.Tracking
import Bcpl.Proofs.Lexing.Cutting

/-!
What stands in a text at the region of an error (`parse_error_describes`).
-/

namespace Bcpl

open Grammar

/-- What a cause says about a text and a region of it. Names and values that do not agree are those
found in the region if it is read on its own. A token that is not the expected one is read in the
region, unless it is the end of the file or was inserted. -/
def Cause.Describes (text : Text) (span : Span) : Cause → Prop
  | .lexical piece => text.slice? span.start span.stop = some piece ∧ piece.length = 1
  | .unterminatedString => ∃ inner, text.slice? span.start span.stop = some ('"' :: inner) ∧
      '"' ∉ inner ∧ span.stop = text.size
  | .numberTooLarge digits => ∃ front back, text = front ++ digits ++ back ∧
      span = ⟨front.size, front.size + Text.size digits⟩ ∧
      digits ≠ [] ∧ (∀ c ∈ digits, c.isDigit = true) ∧
      (∀ c ∈ front.getLast?, c.isDigit = false) ∧ (∀ c ∈ back.head?, c.isDigit = false) ∧
      2 ^ 63 - 1 < decimalValue digits
  | .arityMismatch names values => names ≠ values ∧
      ∃ piece left mark right, ∃ given : List Text, ∃ numbers : List Int,
        text.slice? span.start span.stop = some piece ∧
        (significantTokens piece).map Token.toLexeme = left ++ mark :: right ∧
        Separated Name (.symbol .comma) left given ∧ given.length = names ∧
        mark.kind = .symbol .eq ∧
        Separated Number (.symbol .comma) right numbers ∧ numbers.length = values
  | .expected _ found => ∃ token ∈ lex text, token.span = span ∧ token.toLexeme = found ∧
      if span.isEmpty then
        token = ⟨⟨.eof, []⟩, Span.empty text.size⟩ ∨
          token = Token.synthetic (.symbol .semicolon) span.start ∨
          token = Token.synthetic (.keyword .do_) span.start
      else text.slice? span.start span.stop = some found.text

/-- A token is written between two parts of a text, and does not go on in the second. -/
structure Token.WrittenIn (text : Text) (token : Token) (front back : Text) : Prop where
  whole : text = front ++ token.text ++ back
  span : token.span = ⟨front.size, front.size + Text.size token.text⟩
  digits : front.DigitsEndBefore (token.text ++ back)
  read : Lexeme.read token.text = token.toLexeme
  ends : token.toLexeme.EndsBefore back

theorem Layout.head_cases {text : Text} {lexeme : Lexeme} {others : List Chunk}
    (layout : Layout text (⟨[], lexeme⟩ :: others)) :
    (lexeme = ⟨.eof, []⟩ ∧ text = []) ∨ ∃ rest, text = lexeme.text ++ rest ∧
      Lexeme.read lexeme.text = lexeme ∧ lexeme.EndsBefore rest := by
  cases layout with
  | finish blank => exact .inl ⟨rfl, rfl⟩
  | lexeme blank visible read ends following => exact .inr ⟨_, rfl, read, ends⟩

theorem map_lexeme_rowTokens (armed : Bool) (offset : Nat) (chunks : List Chunk) :
    (rowTokens armed offset chunks).map Token.toLexeme = plainLexemes armed chunks := by
  have lexemes := map_lexeme_weave armed (placed offset chunks)
  rw [map_chunk_placed] at lexemes
  rw [rowTokens_eq, plainLexemes, ← lexemes, List.filter_map]
  rfl

section Tokens

variable {text : Text} {chunks : List Chunk} {token : Token}

theorem Layout.plainTokens_eq_rowTokens (layout : Layout text chunks) :
    plainTokens text = rowTokens false 0 chunks := by
  rw [rowTokens_eq, ← layout.lex_eq, plainTokens]

theorem exists_writtenIn (member : token ∈ plainTokens text) (written : token.kind.IsWritten)
    (unfinished : token.kind ≠ .eof) : ∃ front back, token.WrittenIn text front back := by
  obtain ⟨chunks, layout⟩ := Layout.exists_chunks text
  obtain ⟨before, after, split⟩ := List.append_of_mem member
  rw [layout.plainTokens_eq_rowTokens] at split
  obtain ⟨front, rest, others, cut, _⟩ := layout.exists_rest written split
  have start := cut.start
  rw [Nat.zero_add] at start
  rcases cut.row.head_cases with ⟨ended, _⟩ | ⟨back, rfl, read, ends⟩
  · exact absurd (congrArg Lexeme.kind ended) unfinished
  · refine ⟨front, back, by simp [cut.whole], ?_, cut.digits, read, ends⟩
    rw [← start, ← cut.stop]

/-- A name can end a command, so what stands in front of it does not matter for what is inserted
behind it. -/
theorem CutBefore.rowTokens_of_name {offset : Nat} {front rest : Text} {others : List Chunk}
    (cut : CutBefore text offset token front rest others) (name : token.kind = .name)
    (armed : Bool) (gap : Text) :
    rowTokens false token.span.start (⟨[], token.toLexeme⟩ :: others) =
      token :: rowTokens (Chunk.arms armed ⟨gap, token.toLexeme⟩) token.span.stop others := by
  have arms : Chunk.arms armed ⟨gap, token.toLexeme⟩ = Chunk.arms false ⟨[], token.toLexeme⟩ := by
    simp [Chunk.arms, name, Kind.isSemicolonStart]
  have head : Chunk.plainTokens false token.span.start ⟨[], token.toLexeme⟩ = [token] := by
    rw [Chunk.plainTokens, RawToken.front_of_none Chunk.inserted?_false]
    simp [Text.size, name, ← cut.stop]
  rw [rowTokens, head, arms, cut.stop]
  rfl

/-- A text cut out from a name to another token has the tokens between them. -/
theorem exists_piece {before middle after : List Token} {first last : Token}
    (split : plainTokens text = before ++ first :: (middle ++ last :: after))
    (name : first.kind = .name) (written : last.kind.IsWritten) (unfinished : last.kind ≠ .eof) :
    ∃ piece, text.slice? first.span.start last.span.stop = some piece ∧
      first.span.join last.span = ⟨first.span.start, last.span.stop⟩ ∧
      (significantTokens piece).map Token.toLexeme =
        (first :: (middle ++ [last])).map Token.toLexeme := by
  obtain ⟨chunks, layout⟩ := Layout.exists_chunks text
  have named : first.kind.IsWritten := by simp [name, Kind.IsWritten]
  rw [layout.plainTokens_eq_rowTokens] at split
  obtain ⟨front, rest, others, cut, armed, gap, following⟩ := layout.exists_rest named split
  have row : rowTokens false first.span.start (⟨[], first.toLexeme⟩ :: others) =
      (first :: middle) ++ last :: after := by
    rw [cut.rowTokens_of_name name armed gap, ← following]
    rfl
  obtain ⟨piece, back, inside, rfl, ended, laid, tokens⟩ :=
    cut.row.exists_front written unfinished row
  have tokens : rowTokens false first.span.start inside =
      first :: (middle ++ [last]) ++ [⟨⟨.eof, []⟩, Span.empty last.span.stop⟩] := by
    rw [tokens]
    simp
  have lexemes := map_lexeme_rowTokens false first.span.start inside
  rw [tokens, ← laid.significantTokens_eq, List.map_append] at lexemes
  have firstIn : first ∈ rowTokens false first.span.start inside := by simp [tokens]
  have lastIn : last ∈ rowTokens false first.span.start inside := by simp [tokens]
  have firstSpan := laid.span_of_mem_rowTokens firstIn
  have lastSpan := laid.span_of_mem_rowTokens lastIn
  refine ⟨piece, ?_, ?_, ?_⟩
  · rw [Text.slice?_eq_some_iff]
    have start := cut.start
    exact ⟨front, back, by simp [cut.whole], by omega, by omega⟩
  · rw [Span.join]
    congr 1 <;> omega
  · exact (List.append_cancel_right lexemes).symm

end Tokens

namespace Token

variable {text : Text} {token : Token}

/-- What is not a token is an open string constant or a single character. -/
theorem digits_of_number (read : Lexeme.read token.text = token.toLexeme)
    (number : token.kind = .number) :
    token.text ≠ [] ∧ ∀ c ∈ token.text, c.isDigit = true := by
  have shape := Lexeme.read_shape token.text
  rw [read] at shape
  simp only [Lexeme.Shape, number] at shape
  obtain ⟨first, rest, _, digit, spelled⟩ := shape
  rw [spelled]
  exact ⟨by simp, List.forall_mem_cons.mpr ⟨digit, fun c inside => List.mem_takeWhile_imp inside⟩⟩

/-- A number that does not fit is a whole run of digits. -/
theorem describes_number (member : token ∈ plainTokens text) (number : token.kind = .number)
    (beyond : maxNumber < Text.ofDecimal token.text) :
    (Cause.numberTooLarge token.text).Describes text token.span := by
  have written : token.kind.IsWritten := by simp [number, Kind.IsWritten]
  obtain ⟨front, back, place⟩ := exists_writtenIn member written (by simp [number])
  obtain ⟨nonempty, digits⟩ := digits_of_number place.read number
  refine ⟨front, back, place.whole, place.span, nonempty, digits, fun d last => ?_,
    fun c next => ?_, ?_⟩
  · obtain ⟨first, rest, spelled⟩ := List.exists_cons_of_ne_nil nonempty
    exact place.digits first (by simp [spelled]) (digits first (by simp [spelled])) d last
  · simpa [Lexeme.continuedBy, number] using place.ends c next
  · rwa [ofDecimal_eq_decimalValue] at beyond

theorem describes_expected (member : token ∈ lex text) (expectation : Expectation) :
    (Cause.expected expectation token.toLexeme).Describes text token.span := by
  refine ⟨token, member, rfl, rfl, ?_⟩
  obtain ⟨chunks, layout⟩ := Layout.exists_chunks text
  rw [layout.lex_eq] at member
  obtain ⟨raw, listed, written | inserted⟩ := mem_weave member
  · subst written
    split
    · next empty =>
        have ended : raw.token.kind = .eof := by
          simpa [isInserted, empty] using layout.isInserted_of_mem 0 listed
        obtain ⟨front, split, unfinished⟩ := layout.exists_weave_eq false 0
        rw [split, Nat.zero_add] at member
        rcases List.mem_append.mp member with early | last
        · exact absurd ended (unfinished _ early)
        · exact .inl (List.mem_singleton.mp last)
    · exact (layout.cut_of_mem listed).2.2.2.2
  · rcases inserted with rfl | rfl <;>
      simp [synthetic, Span.empty, Span.isEmpty, Span.length]

/-- A token that is refused stands at the region of the error. -/
theorem describes_refusal (member : token ∈ plainTokens text) (expectation : Expectation) :
    (token.refusal expectation).cause.Describes text token.span := by
  unfold refusal
  by_cases illegal : token.kind = .illegal
  · have written : token.kind.IsWritten := by simp [illegal, Kind.IsWritten]
    obtain ⟨front, back, place⟩ := exists_writtenIn member written (by simp [illegal])
    have slice := Text.slice?_append front token.text back
    rw [← place.whole] at slice
    rcases Lexeme.illegal_cases place.read illegal with ⟨inner, quoted, unquoted⟩ | ⟨unquoted, single⟩
    · have ended : back = [] := (Lexeme.endsBefore_iff_of_open back fun c => by
        simp [Lexeme.continuedBy, illegal, quoted]).mp place.ends
      simp only [if_pos illegal, quoted, List.head?_cons, if_true]
      refine ⟨inner, by rw [place.span, slice, quoted], unquoted, ?_⟩
      rw [place.span, place.whole, ended]
      simp
    · simp only [if_pos illegal, if_neg unquoted]
      exact ⟨by rw [place.span, slice], single⟩
  · simp only [if_neg illegal]
    exact describes_expected (List.mem_of_mem_filter member) expectation

end Token

/-- Names and values that do not agree are those from the first name on. -/
theorem describes_arity {text : Text} {front back : List Token} {binding : Binding}
    {values : List Int} {last : Span} (split : plainTokens text = front ++ back)
    (tracks : (Position.valueEnd binding values last).Tracks front)
    (differ : binding.names.length ≠ values.length) :
    ∃ piece, text.slice? (binding.first.span.join last).start (binding.first.span.join last).stop =
        some piece ∧
      (Cause.arityMismatch binding.names.length values.length).Describes text
        (binding.first.span.join last) := by
  obtain ⟨name, before, inside, rfl, row, ended⟩ := tracks.definition binding.first rfl
  obtain ⟨token, final, number, rfl⟩ := ended last rfl
  obtain ⟨middle, rfl⟩ : ∃ middle, inside = middle ++ [token] := by
    rcases List.eq_nil_or_concat inside with rfl | ⟨middle, other, rfl⟩
    · obtain rfl : binding.first = token := Option.some.inj final
      rw [name] at number
      contradiction
    · rw [List.concat_eq_append, ← List.cons_append, List.getLast?_concat] at final
      cases final
      exact ⟨middle, List.concat_eq_append⟩
  have written : token.kind.IsWritten := by simp [number, Kind.IsWritten]
  have split : plainTokens text = before ++ binding.first :: (middle ++ token :: back) := by
    rw [split]
    simp
  obtain ⟨piece, slice, joined, lexemes⟩ := exists_piece split name written (by simp [number])
  obtain ⟨_, right, whole, ⟨left, mark, rfl, named, marked⟩, numbered⟩ := row
  rw [joined]
  refine ⟨piece, slice, differ, piece, left, mark, right, binding.names, values, slice, ?_, named,
    rfl, marked, numbered, rfl⟩
  rw [lexemes, whole, List.append_assoc, List.singleton_append]

/-- A parse error describes the text that its region is cut out from. -/
theorem parse_error_describes {text : Text} {error : SyntaxError}
    (failed : parse text = .error error) :
    error.span.start ≤ error.span.stop ∧ error.span.stop ≤ text.size ∧
      text.Boundary error.span.start ∧ text.Boundary error.span.stop ∧
      error.cause.Describes text error.span := by
  obtain ⟨front, token, back, behind, split, accepts, rejects⟩ := exists_rejected_of_parse failed
  have outside : Position.Tracks .item [] := .outside rfl nofun
  have tracks := Parser.acceptAll_tracks outside accepts
  have cut {token : Token} (member : token ∈ plainTokens text) :
      token.span.start ≤ token.span.stop ∧ token.span.stop ≤ text.size ∧
        text.Boundary token.span.start ∧ text.Boundary token.span.stop := by
    obtain ⟨start, stop, ordered⟩ := stands_of_mem_lex (List.mem_of_mem_filter member)
    exact ⟨ordered, stop.le_size, start, stop⟩
  rcases rejects.cases with failed | ⟨events, settled, _, _, rfl⟩
  · rcases Parser.settle_error_cases failed with
      ⟨number, here, rfl⟩ | ⟨binding, values, _, here, differ, rfl⟩
    · obtain ⟨listed, kind, beyond⟩ := tracks.oversized number here
      have member : number ∈ plainTokens text := by
        rw [split]
        exact List.mem_append_left _ listed
      obtain ⟨ordered, within, start, stop⟩ := cut member
      exact ⟨ordered, within, start, stop, number.describes_number member kind beyond⟩
    · rw [here] at tracks
      obtain ⟨piece, slice, describes⟩ := describes_arity split tracks differ
      obtain ⟨before, after, rfl, start, stop⟩ := Text.slice?_eq_some_iff.mp slice
      refine ⟨Nat.le.intro (by rw [← start, stop]), ?_, ⟨before, piece ++ after, by simp, start⟩,
        ⟨before ++ piece, after, rfl, by simpa using stop⟩, describes⟩
      simp only [← stop, Text.size_append]
      exact Nat.le_add_right _ _
  · have member : token ∈ plainTokens text := by simp [split]
    obtain ⟨ordered, within, start, stop⟩ := cut member
    exact ⟨ordered, within, start, stop, token.describes_refusal member _⟩

/-- Two names with a remark between them, and three values. -/
theorem parse_error_describes_three_values :
    let text : Text := "let A, // two\nB = 1, 2, 3 and C = 4".toList
    let error : SyntaxError := ⟨.arityMismatch 2 3, ⟨4, 25⟩⟩
    parse text = .error error ∧ error.span.start ≤ error.span.stop ∧
      error.span.stop ≤ text.size ∧ text.Boundary error.span.start ∧
      text.Boundary error.span.stop ∧ error.cause.Describes text error.span := by
  intro text error
  have failed : parse text = .error error := by decide +kernel
  exact ⟨failed, parse_error_describes failed⟩

end Bcpl
