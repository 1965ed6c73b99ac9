import Bcpl.Proofs.Lexing.SpelledOut
import Bcpl.Proofs.Lexing.TokenText

/-!
Lexing a part of a text. A text that is cut off in front of a token or behind one is laid out as
the rest of the row of its chunks (`Layout.exists_rest`, `Layout.exists_front`). What is lost is what
was inserted in front of the first token of the part.
-/

namespace Bcpl

namespace Lexeme

/-- No run of digits is parted: a lexeme that ends in front of a digit does not end with one. -/
theorem not_isDigit_of_last {lexeme : Lexeme} (whole : read lexeme.text = lexeme) {c d : Char}
    (next : c.isDigit = true) (stops : lexeme.continuedBy c = false)
    (last : d ∈ lexeme.text.getLast?) : d.isDigit = false := by
  have shape := read_shape lexeme.text
  rw [whole] at shape
  unfold Shape at shape
  unfold continuedBy at stops
  split at shape
  · simp [shape.1] at last
  · next comment =>
      simp only [comment, bne_eq_false_iff_eq] at stops
      rw [stops] at last
      cases last
      decide
  · next name =>
      simp [name, Char.isAlphanum, next] at stops
  · next word reserved =>
      simp [reserved, Char.isAlphanum, next] at stops
  · next number =>
      simp [number, next] at stops
  · obtain ⟨rest, _, spelled⟩ := shape
    rw [spelled, List.getLast?_concat] at last
    cases last
    decide
  · next symbol _ =>
      rw [shape] at last
      cases symbol <;> cases last <;> decide
  · next illegal =>
      rcases shape with ⟨rest, _, quoted⟩ | ⟨first, rest, _, _, alone⟩
      · simp [illegal, quoted] at stops
      · rw [alone] at last
        cases last
        by_contra digit
        have digit : first.isDigit = true := by simpa using digit
        rw [alone, read_of_isDigit digit] at whole
        rw [← whole] at illegal
        contradiction

end Lexeme

theorem Lexer.not_isDigit_of_isBlank {c : Char} (blank : isBlank c = true) : c.isDigit = false := by
  simp only [isBlank, Bool.or_eq_true, decide_eq_true_eq] at blank
  rcases blank with ((rfl | rfl) | rfl) | rfl <;> decide

/-- Two texts do not part a run of digits. -/
def Text.DigitsEndBefore (front rest : Text) : Prop :=
  ∀ c ∈ rest.head?, c.isDigit = true → ∀ d ∈ front.getLast?, d.isDigit = false

/-- The tokens that a chunk of a text stands for, without comments. -/
def Chunk.plainTokens (armed : Bool) (offset : Nat) (chunk : Chunk) : List Token :=
  let start := offset + chunk.gap.size
  let raw : RawToken := ⟨chunk.gap, ⟨chunk.lexeme, ⟨start, start + Text.size chunk.lexeme.text⟩⟩⟩
  raw.front armed ++ [raw.token].filter (·.kind ≠ .comment)

/-- The tokens of a row of chunks that starts at a byte of the text, without comments. -/
def rowTokens : Bool → Nat → List Chunk → List Token
  | _, _, [] => []
  | armed, offset, chunk :: rest =>
      chunk.plainTokens armed offset ++
        rowTokens (chunk.arms armed) (offset + chunk.gap.size + Text.size chunk.lexeme.text) rest

/-- A kind of tokens that are never inserted. -/
def Kind.IsWritten (kind : Kind) : Prop := kind ≠ .symbol .semicolon ∧ kind ≠ .keyword .do_

theorem rowTokens_eq (armed : Bool) (offset : Nat) (chunks : List Chunk) :
    rowTokens armed offset chunks =
      (weave armed (placed offset chunks)).filter (·.kind ≠ .comment) := by
  induction chunks generalizing armed offset with
  | nil => rfl
  | cons chunk rest ih =>
      rw [rowTokens, ih, placed, weave, List.filter_append, Chunk.plainTokens, List.append_assoc]
      congr 1
      · refine (List.filter_eq_self.mpr fun token member => ?_).symm
        rcases RawToken.eq_of_mem_front member with rfl | rfl <;> simp [Token.synthetic]
      · rw [← List.filter_append, List.singleton_append]
        rfl

namespace Chunk

variable {armed : Bool} {offset : Nat} {chunk : Chunk} {before rest after : List Token}
  {token : Token}

/-- Of the tokens of a chunk only the last can be written. -/
theorem eq_of_plainTokens (written : token.kind.IsWritten)
    (split : chunk.plainTokens armed offset = before ++ token :: after) :
    after = [] ∧ token.toLexeme = chunk.lexeme ∧ token.span =
      ⟨offset + chunk.gap.size, offset + chunk.gap.size + Text.size chunk.lexeme.text⟩ := by
  let start := offset + chunk.gap.size
  let raw : RawToken := ⟨chunk.gap, ⟨chunk.lexeme, ⟨start, start + Text.size chunk.lexeme.text⟩⟩⟩
  change raw.front armed ++ [raw.token].filter (·.kind ≠ .comment) = _ at split
  have last : ∀ {front}, [raw.token].filter (·.kind ≠ .comment) = front ++ token :: after →
      after = [] ∧ token = raw.token := by
    intro front same
    have short : ([raw.token].filter (·.kind ≠ .comment)).Sublist [raw.token] := List.filter_sublist
    rw [same] at short
    cases front with
    | nil => simpa [and_comm] using short
    | cons first front => simpa using short.length_le
  have found : after = [] ∧ token = raw.token := by
    cases inserted : raw.chunk.inserted? armed with
    | none =>
        rw [RawToken.front_of_none inserted] at split
        exact last split
    | some kind =>
        rw [RawToken.front_of_some inserted] at split
        cases before with
        | nil =>
            obtain ⟨rfl, _⟩ := List.cons.inj split
            rcases inserted_kind inserted with rfl | rfl
            · exact absurd rfl written.1
            · exact absurd rfl written.2
        | cons first before => exact last (List.cons.inj split).2
  obtain ⟨rfl, rfl⟩ := found
  exact ⟨rfl, rfl, rfl⟩

theorem plainTokens_eof (armed : Bool) (offset : Nat) :
    plainTokens armed offset ⟨[], ⟨.eof, []⟩⟩ = [⟨⟨.eof, []⟩, Span.empty offset⟩] := by
  have nothing : inserted? armed ⟨[], ⟨.eof, []⟩⟩ = none := inserted?_of_eof rfl armed
  rw [plainTokens, RawToken.front_of_none nothing]
  rfl

/-- A token of a row that starts with a chunk is the one of the chunk, or stands behind it. -/
theorem plainTokens_append_cases (written : token.kind.IsWritten)
    (split : chunk.plainTokens armed offset ++ rest = before ++ token :: after) :
    (chunk.plainTokens armed offset = before ++ [token] ∧ token.toLexeme = chunk.lexeme ∧
      token.span = ⟨offset + chunk.gap.size,
        offset + chunk.gap.size + Text.size chunk.lexeme.text⟩ ∧ after = rest) ∨
    ∃ others, before = chunk.plainTokens armed offset ++ others ∧ rest = others ++ token :: after := by
  rcases List.append_eq_append_iff.mp split with ⟨others, rfl, same⟩ | ⟨others, whole, same⟩
  · exact .inr ⟨others, rfl, same⟩
  · cases others with
    | nil => exact .inr ⟨[], by rw [whole, List.append_nil, List.append_nil], same.symm⟩
    | cons first others =>
        obtain ⟨rfl, rfl⟩ := List.cons.inj same
        obtain ⟨rfl, lexeme, span⟩ := eq_of_plainTokens written whole
        exact .inl ⟨whole, lexeme, span, rfl⟩

end Chunk

/-- A text is parted in front of one of its tokens. The second part is laid out from the token on. -/
structure CutBefore (text : Text) (offset : Nat) (token : Token) (front rest : Text)
    (others : List Chunk) : Prop where
  whole : text = front ++ rest
  start : token.span.start = offset + front.size
  stop : token.span.stop = token.span.start + Text.size token.text
  row : Layout rest (⟨[], token.toLexeme⟩ :: others)
  digits : front.DigitsEndBefore rest

theorem CutBefore.lexeme_append {text front rest : Text} {offset : Nat} {token : Token}
    {others : List Chunk} {lexeme : Lexeme} (gap : Text) (visible : lexeme.text ≠ [])
    (read : Lexeme.read lexeme.text = lexeme) (ends : lexeme.EndsBefore text)
    (cut : CutBefore text (offset + gap.size + Text.size lexeme.text) token front rest others) :
    CutBefore (gap ++ (lexeme.text ++ text)) offset token (gap ++ (lexeme.text ++ front)) rest
      others where
  whole := by simp [cut.whole]
  start := by
    rw [cut.start]
    simp only [Text.size_append, Nat.add_assoc]
  stop := cut.stop
  row := cut.row
  digits c next digit d last := by
    cases front with
    | nil =>
        have inLexeme : d ∈ lexeme.text.getLast? := by
          rwa [List.append_nil, List.getLast?_append_of_ne_nil _ visible] at last
        have stops := ends c (by rw [cut.whole]; exact next)
        exact Lexeme.not_isDigit_of_last read digit stops inLexeme
    | cons first front =>
        rw [← List.append_assoc, List.getLast?_append_of_ne_nil _ (by simp)] at last
        exact cut.digits c next digit d last

namespace Layout

variable {text : Text} {chunks : List Chunk} {armed : Bool} {offset : Nat}
  {before after : List Token} {token : Token}

/-- A text is laid out from a token on. The gap in front of the token is cut off. -/
theorem exists_rest (layout : Layout text chunks) (written : token.kind.IsWritten)
    (split : rowTokens armed offset chunks = before ++ token :: after) :
    ∃ front rest others, CutBefore text offset token front rest others ∧
      ∃ armed gap, after =
        rowTokens (Chunk.arms armed ⟨gap, token.toLexeme⟩) token.span.stop others := by
  induction layout generalizing armed offset before with
  | @finish gap blank =>
      rcases Chunk.plainTokens_append_cases written split with
        ⟨_, lexeme, span, rfl⟩ | ⟨others, _, ended⟩
      · refine ⟨gap, [], [], ?_, armed, gap, rfl⟩
        have row : Layout [] (⟨[], ⟨.eof, []⟩⟩ :: []) := .finish (by simp)
        constructor
        case whole => simp
        case start => rw [span]
        case stop => rw [span, lexeme]
        case row => rwa [lexeme]
        case digits => simp [Text.DigitsEndBefore]
      · simp [rowTokens] at ended
  | @lexeme gap following lexeme chunks blank visible read ends layout ih =>
      rcases Chunk.plainTokens_append_cases written split with
        ⟨_, same, span, rfl⟩ | ⟨others, _, later⟩
      · refine ⟨gap, lexeme.text ++ following, chunks, ?_, armed, gap, by rw [span, same]⟩
        have row : Layout ([] ++ (lexeme.text ++ following)) (⟨[], lexeme⟩ :: chunks) :=
          .lexeme (by simp) visible read ends layout
        constructor
        case whole => rfl
        case start => rw [span]
        case stop => rw [span, same]
        case row => rwa [same]
        case digits =>
          exact fun c _ _ d last =>
            Lexer.not_isDigit_of_isBlank (blank d (List.mem_of_getLast? last))
      · obtain ⟨front, rest, others, cut, behind⟩ := ih later
        exact ⟨_, rest, others, cut.lexeme_append gap visible.ne_nil read ends, behind⟩

/-- A text is laid out up to a token. Nothing is inserted at the end of the text. -/
theorem exists_front (layout : Layout text chunks) (written : token.kind.IsWritten)
    (unfinished : token.kind ≠ .eof)
    (split : rowTokens armed offset chunks = before ++ token :: after) :
    ∃ front rest others, text = front ++ rest ∧ token.span.stop = offset + front.size ∧
      Layout front others ∧ rowTokens armed offset others =
        before ++ [token, ⟨⟨.eof, []⟩, Span.empty token.span.stop⟩] := by
  induction layout generalizing armed offset before with
  | @finish gap blank =>
      rcases Chunk.plainTokens_append_cases written split with
        ⟨_, lexeme, _, _⟩ | ⟨others, _, ended⟩
      · exact absurd (congrArg Lexeme.kind lexeme) unfinished
      · simp [rowTokens] at ended
  | @lexeme gap following lexeme chunks blank visible read ends layout ih =>
      rcases Chunk.plainTokens_append_cases written split with
        ⟨tokens, same, span, rfl⟩ | ⟨others, rfl, later⟩
      · refine ⟨gap ++ (lexeme.text ++ []), following, [⟨gap, lexeme⟩, ⟨[], ⟨.eof, []⟩⟩], by simp,
          by rw [span]; simp [Nat.add_assoc], ?_, ?_⟩
        · exact .lexeme blank visible read (by simp [Lexeme.EndsBefore]) (.finish (by simp))
        · rw [rowTokens, rowTokens, rowTokens, tokens, Chunk.plainTokens_eof, span,
            List.append_nil, List.append_assoc]
          rfl
      · obtain ⟨front, rest, others', rfl, stop, cut, row⟩ := ih later
        refine ⟨gap ++ (lexeme.text ++ front), rest, ⟨gap, lexeme⟩ :: others', by simp, ?_, ?_, ?_⟩
        · rw [stop]
          simp only [Text.size_append, Nat.add_assoc]
        · refine .lexeme blank visible read (fun c next => ends c ?_) cut
          rw [List.head?_append, Option.mem_def.mp next]
          rfl
        · rw [rowTokens, row, List.append_assoc]

theorem span_of_mem_rowTokens (layout : Layout text chunks)
    (member : token ∈ rowTokens armed offset chunks) :
    offset ≤ token.span.start ∧ token.span.start ≤ token.span.stop ∧
      token.span.stop ≤ offset + text.size := by
  rw [rowTokens_eq] at member
  obtain ⟨raw, listed, same⟩ := mem_weave (List.mem_of_mem_filter member)
  obtain ⟨front, back, rfl, span, _⟩ := layout.split_of_mem listed
  simp only [Text.size_append]
  rcases same with rfl | rfl | rfl <;> simp only [Token.synthetic, Span.empty, span] <;> omega

end Layout

end Bcpl
