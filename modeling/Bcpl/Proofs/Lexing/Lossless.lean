import Mathlib.Data.List.Chain
import Bcpl.Proofs.Lexing.Layout

/-!
The tokens of a text hold the whole text (`lex_lossless`). The tokens that are written in it stand
in order, each on its own part of the text, and nothing but blanks lies between them.
-/

namespace Bcpl

/-- A token that is not written in the text. Only the end of the file is empty as well. -/
def Token.isInserted (token : Token) : Bool := token.span.isEmpty && token.kind != .eof

def writtenTokens (tokens : List Token) : List Token := tokens.filter (!·.isInserted)

/-- The text from a byte on, put together from what lies between some tokens and from the texts of
the tokens. -/
def rebuild? (text : Text) : Nat → List Token → Option Text
  | _, [] => some []
  | offset, token :: rest => do
      let gap ← text.slice? offset token.span.start
      let following ← rebuild? text token.span.stop rest
      return gap ++ token.text ++ following

/-- The byte is the UTF-8 form of a space, a tab, a carriage return or a line feed. -/
def IsBlankByte (byte : UInt8) : Prop := byte = 0x20 ∨ byte = 0x09 ∨ byte = 0x0d ∨ byte = 0x0a

/-- An inserted token stands where the token behind it starts, and that one is written. -/
def Token.Announces (token next : Token) : Prop :=
  token.isInserted → ¬ next.isInserted ∧
    (token = Token.synthetic (.symbol .semicolon) next.span.start ∨
      token = Token.synthetic (.keyword .do_) next.span.start)

structure Lossless (text : Text) (tokens : List Token) : Prop where
  ordered : (writtenTokens tokens).Pairwise fun first second => first.span.stop ≤ second.span.start
  cut : ∀ token ∈ writtenTokens tokens, text.Boundary token.span.start ∧
    text.Boundary token.span.stop ∧ token.span.start ≤ token.span.stop ∧
    token.span.stop ≤ text.size ∧ text.slice? token.span.start token.span.stop = some token.text
  visible : ∀ token ∈ writtenTokens tokens, token.kind ≠ .eof →
    token.span.start < token.span.stop ∧ token.text ≠ []
  ended : ∃ front, tokens = front ++ [⟨⟨.eof, []⟩, Span.empty text.size⟩] ∧
    ∀ token ∈ front, token.kind ≠ .eof
  blank : ∀ offset byte, text.bytes[offset]? = some byte →
    (∀ token ∈ writtenTokens tokens, ¬ (token.span.start ≤ offset ∧ offset < token.span.stop)) →
    IsBlankByte byte
  rebuilt : rebuild? text 0 (writtenTokens tokens) = some text
  announced : tokens.IsChain Token.Announces

namespace RawToken

variable {armed : Bool} {raw : RawToken} {token : Token}

theorem eq_of_mem_front (member : token ∈ raw.front armed) :
    token = Token.synthetic (.symbol .semicolon) raw.token.span.start ∨
      token = Token.synthetic (.keyword .do_) raw.token.span.start := by
  cases inserted : raw.chunk.inserted? armed with
  | none => simp [front_of_none inserted] at member
  | some kind =>
      rw [front_of_some inserted, List.mem_singleton] at member
      rcases Chunk.inserted_kind inserted with rfl | rfl
      · exact .inl member
      · exact .inr member

theorem isInserted_of_mem_front (member : token ∈ raw.front armed) :
    token.isInserted = true ∧ token.kind ≠ .eof := by
  rcases eq_of_mem_front member with rfl | rfl <;>
    simp [Token.isInserted, Token.synthetic, Span.isEmpty, Span.length, Span.empty]

end RawToken

section Weave

variable {raws : List RawToken}

theorem writtenTokens_weave (written : ∀ raw ∈ raws, raw.token.isInserted = false) (armed : Bool) :
    writtenTokens (weave armed raws) = raws.map RawToken.token := by
  induction raws generalizing armed with
  | nil => rfl
  | cons raw rest ih =>
      have dropped : (raw.front armed).filter (!·.isInserted) = [] := by
        rw [List.filter_eq_nil_iff]
        intro token member
        simp [(RawToken.isInserted_of_mem_front member).1]
      have kept := written raw List.mem_cons_self
      rw [weave, writtenTokens, List.filter_append, dropped, List.nil_append,
        List.filter_cons_of_pos (by simp [kept]), List.map_cons]
      congr 1
      exact ih (fun raw member => written raw (List.mem_cons_of_mem _ member)) _

theorem isChain_weave (written : ∀ raw ∈ raws, raw.token.isInserted = false) (armed : Bool) :
    (weave armed raws).IsChain Token.Announces := by
  induction raws generalizing armed with
  | nil => exact .nil
  | cons raw rest ih =>
      have kept := written raw List.mem_cons_self
      have following := ih (fun raw member => written raw (List.mem_cons_of_mem _ member))
        (raw.chunk.arms armed)
      -- Only an inserted token says anything about the one behind it.
      have alone : ∀ next, raw.token.Announces next := fun next inserted =>
        absurd inserted (by simp [kept])
      have behind := following.cons fun next _ => alone next
      rw [weave]
      cases inserted : raw.chunk.inserted? armed with
      | none => rwa [RawToken.front_of_none inserted]
      | some kind =>
          have front := RawToken.front_of_some inserted
          have member : Token.synthetic kind raw.token.span.start ∈ raw.front armed := by
            rw [front]
            exact List.mem_singleton_self _
          rw [front]
          refine behind.cons fun next found _ => ?_
          obtain rfl : raw.token = next := Option.some.inj found
          exact ⟨by simp [kept], RawToken.eq_of_mem_front member⟩

theorem exists_weave_cons {raw : RawToken} {last : Token} (armed : Bool)
    (unfinished : raw.token.kind ≠ .eof)
    (following : ∃ front, weave (raw.chunk.arms armed) raws = front ++ [last] ∧
      ∀ token ∈ front, token.kind ≠ .eof) :
    ∃ front, weave armed (raw :: raws) = front ++ [last] ∧ ∀ token ∈ front, token.kind ≠ .eof := by
  obtain ⟨front, split, others⟩ := following
  refine ⟨raw.front armed ++ raw.token :: front, ?_, ?_⟩
  · rw [weave, split, List.append_assoc, List.cons_append]
  · intro token member
    rcases List.mem_append.mp member with early | later
    · exact (RawToken.isInserted_of_mem_front early).2
    · rcases List.mem_cons.mp later with rfl | later
      · exact unfinished
      · exact others token later

end Weave

theorem isBlankByte_of_mem {gap : Text} (blank : ∀ c ∈ gap, Lexer.isBlank c = true) {byte : UInt8}
    (member : byte ∈ gap.bytes) : IsBlankByte byte := by
  obtain ⟨c, inside, encoded⟩ := List.mem_flatMap.mp member
  have shown := blank c inside
  simp only [Lexer.isBlank, Bool.or_eq_true, decide_eq_true_eq] at shown
  have space : String.utf8EncodeChar ' ' = [0x20] := by decide
  have tab : String.utf8EncodeChar '\t' = [0x09] := by decide
  have carriageReturn : String.utf8EncodeChar '\r' = [0x0d] := by decide
  have lineFeed : String.utf8EncodeChar '\n' = [0x0a] := by decide
  rcases shown with ((rfl | rfl) | rfl) | rfl <;>
    simp_all [IsBlankByte]

theorem le_start_of_mem_placed {offset : Nat} {chunks : List Chunk} {raw : RawToken}
    (member : raw ∈ placed offset chunks) : offset ≤ raw.token.span.start := by
  induction chunks generalizing offset with
  | nil => simp [placed] at member
  | cons chunk rest ih =>
      rcases List.mem_cons.mp member with rfl | later
      · exact Nat.le_add_right _ _
      · have bounded := ih later
        omega

theorem pairwise_placed (offset : Nat) (chunks : List Chunk) :
    (placed offset chunks).Pairwise fun first second =>
      first.token.span.stop ≤ second.token.span.start := by
  induction chunks generalizing offset with
  | nil => exact .nil
  | cons chunk rest ih =>
      exact List.pairwise_cons.mpr ⟨fun raw member => le_start_of_mem_placed member, ih _⟩

namespace Layout

variable {text : Text} {chunks : List Chunk} (layout : Layout text chunks)
include layout

theorem split_of_mem {offset : Nat} {raw : RawToken} (member : raw ∈ placed offset chunks) :
    ∃ front back, text = front ++ raw.token.text ++ back ∧
      raw.token.span = ⟨offset + front.size, offset + front.size + Text.size raw.token.text⟩ ∧
      (raw.token.toLexeme = ⟨.eof, []⟩ ∨ raw.token.toLexeme.Visible) := by
  induction layout generalizing offset with
  | @finish gap blank =>
      obtain rfl := List.mem_singleton.mp member
      exact ⟨gap, [], by simp, rfl, .inl rfl⟩
  | @lexeme gap after lexeme chunks blank visible read ends following ih =>
      rcases List.mem_cons.mp member with rfl | later
      · exact ⟨gap, after, by simp, rfl, .inr visible⟩
      · obtain ⟨front, back, split, span, shown⟩ := ih later
        refine ⟨gap ++ lexeme.text ++ front, back, by simp [split], ?_, shown⟩
        rw [span]
        simp [Nat.add_assoc]

theorem covered_or_blank (offset : Nat) {index : Nat} {byte : UInt8}
    (found : text.bytes[index]? = some byte) :
    (∃ raw ∈ placed offset chunks, raw.token.span.start ≤ offset + index ∧
      offset + index < raw.token.span.stop) ∨ IsBlankByte byte := by
  induction layout generalizing offset index with
  | finish blank => exact .inr (isBlankByte_of_mem blank (List.mem_of_getElem? found))
  | @lexeme gap after lexeme chunks blank visible read ends following ih =>
      rw [Text.bytes_append, Text.bytes_append] at found
      by_cases inGap : index < gap.size
      · rw [List.getElem?_append_left (by rwa [Text.length_bytes])] at found
        exact .inr (isBlankByte_of_mem blank (List.mem_of_getElem? found))
      · rw [List.getElem?_append_right (by rw [Text.length_bytes]; omega), Text.length_bytes]
          at found
        by_cases inLexeme : index - gap.size < Text.size lexeme.text
        · refine .inl ⟨_, List.mem_cons_self, ?_, ?_⟩ <;> simp only <;> omega
        · rw [List.getElem?_append_right (by rw [Text.length_bytes]; omega), Text.length_bytes]
            at found
          rcases ih (offset + gap.size + Text.size lexeme.text) found with
            ⟨raw, member, lower, upper⟩ | blank
          · exact .inl ⟨raw, List.mem_cons_of_mem _ member, by omega, by omega⟩
          · exact .inr blank

theorem rebuild?_placed (before : Text) :
    rebuild? (before ++ text) before.size ((placed before.size chunks).map RawToken.token) =
      some text := by
  induction layout generalizing before with
  | @finish gap blank =>
      have gapCut := Text.slice?_append before gap []
      rw [List.append_nil] at gapCut
      simp [placed, rebuild?, gapCut]
  | @lexeme gap after lexeme chunks blank visible read ends following ih =>
      have gapCut := Text.slice?_append before gap (lexeme.text ++ after)
      have rest := ih (before ++ gap ++ lexeme.text)
      simp only [Text.size_append, List.append_assoc] at gapCut rest
      simp only [placed, List.map_cons, rebuild?, gapCut, Nat.add_assoc, rest, Option.bind_eq_bind,
        Option.bind_some, Option.pure_def, List.append_assoc]

theorem exists_weave_eq (armed : Bool) (offset : Nat) :
    ∃ front, weave armed (placed offset chunks) =
        front ++ [⟨⟨.eof, []⟩, Span.empty (offset + text.size)⟩] ∧
      ∀ token ∈ front, token.kind ≠ .eof := by
  induction layout generalizing armed offset with
  | @finish gap blank =>
      have nothing : Chunk.inserted? armed ⟨gap, ⟨.eof, []⟩⟩ = none :=
        Chunk.inserted?_of_eof rfl armed
      refine ⟨[], ?_, by simp⟩
      simp only [placed, weave]
      rw [RawToken.front_of_none nothing]
      rfl
  | @lexeme gap after lexeme chunks blank visible read ends following ih =>
      have total : offset + Text.size (gap ++ (lexeme.text ++ after)) =
          offset + gap.size + Text.size lexeme.text + after.size := by
        simp only [Text.size_append, Nat.add_assoc]
      rw [total]
      exact exists_weave_cons armed (visible.kind_ne_eof read) (ih _ _)

theorem isInserted_of_mem (offset : Nat) {raw : RawToken} (member : raw ∈ placed offset chunks) :
    raw.token.isInserted = false := by
  obtain ⟨front, back, _, span, kind | visible⟩ := layout.split_of_mem member
  · simp [Token.isInserted, kind]
  · have positive := Text.size_pos visible.ne_nil
    simp only [Token.isInserted, span, Span.isEmpty, Span.length, Nat.add_sub_cancel_left]
    simp [Nat.pos_iff_ne_zero.mp positive]

theorem cut_of_mem {raw : RawToken} (member : raw ∈ placed 0 chunks) :
    text.Boundary raw.token.span.start ∧ text.Boundary raw.token.span.stop ∧
      raw.token.span.start ≤ raw.token.span.stop ∧ raw.token.span.stop ≤ text.size ∧
      text.slice? raw.token.span.start raw.token.span.stop = some raw.token.text := by
  obtain ⟨front, back, split, span, _⟩ := layout.split_of_mem member
  have sliced := Text.slice?_append front raw.token.text back
  rw [← split] at sliced
  simp only [span, Nat.zero_add]
  refine ⟨⟨front, raw.token.text ++ back, by rw [split, List.append_assoc], rfl⟩,
    ⟨front ++ raw.token.text, back, split, by simp⟩, Nat.le_add_right _ _, ?_, sliced⟩
  rw [split]
  simp

end Layout

/-- The tokens of a text lose nothing of it: the written ones stand in order on parts of the text
with only blanks between them, up to one end-of-file token at the end of the text, and the others
each announce the token they were put in front of. -/
theorem lex_lossless (text : Text) : Lossless text (lex text) := by
  obtain ⟨chunks, layout⟩ := Layout.exists_chunks text
  have written : ∀ raw ∈ placed 0 chunks, raw.token.isInserted = false :=
    fun raw member => layout.isInserted_of_mem 0 member
  have tokens := writtenTokens_weave written false
  rw [layout.lex_eq]
  constructor
  case ordered =>
    rw [tokens, List.pairwise_map]
    exact pairwise_placed 0 chunks
  case cut =>
    rw [tokens, List.forall_mem_map]
    exact fun raw member => layout.cut_of_mem member
  case visible =>
    rw [tokens, List.forall_mem_map]
    intro raw member unfinished
    obtain ⟨front, back, _, span, kind | visible⟩ := layout.split_of_mem member
    · simp [kind] at unfinished
    · have positive := Text.size_pos visible.ne_nil
      rw [span]
      exact ⟨Nat.lt_add_of_pos_right positive, visible.ne_nil⟩
  case ended => simpa only [Nat.zero_add] using layout.exists_weave_eq false 0
  case blank =>
    rw [tokens]
    intro offset byte found uncovered
    rcases layout.covered_or_blank 0 found with ⟨raw, member, covered⟩ | blank
    · rw [Nat.zero_add] at covered
      exact absurd covered (uncovered raw.token (List.mem_map_of_mem member))
    · exact blank
  case rebuilt =>
    rw [tokens]
    exact layout.rebuild?_placed []
  case announced => exact isChain_weave written false

end Bcpl
