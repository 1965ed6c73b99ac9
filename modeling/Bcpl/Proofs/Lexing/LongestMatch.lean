import Bcpl.Proofs.Lexing.Keywords
import Bcpl.Proofs.Lexing.Layout
import Bcpl.Proofs.Lexing.Shape

/-!
The lexical grammar. What is scanned anywhere in a text is the longest word of the grammar that the
text goes on with there, and what no word begins is illegal (`scan_foremost`).
-/

namespace Bcpl

namespace Lexeme

/-- The words of the grammar, each with its kind. A name that is in the table of reserved words is
of the kind given there. -/
inductive Word : Lexeme → Prop where
  | name {first : Char} {rest : Text} (letter : first.isAlpha = true)
      (others : ∀ c ∈ rest, c.isAlphanum = true)
      (free : first :: rest ∉ Keyword.all.map Keyword.spelling) : Word ⟨.name, first :: rest⟩
  | reserved {first : Char} {rest : Text} {word : Keyword} (letter : first.isAlpha = true)
      (others : ∀ c ∈ rest, c.isAlphanum = true) (listed : word.spelling = first :: rest) :
      Word ⟨.keyword word, first :: rest⟩
  | number {first : Char} {rest : Text} (digit : first.isDigit = true)
      (others : ∀ c ∈ rest, c.isDigit = true) : Word ⟨.number, first :: rest⟩
  | quotation {inner : Text} (inside : '"' ∉ inner) :
      Word ⟨.stringConst, '"' :: (inner ++ ['"'])⟩
  | remark {line : Text} (inside : '\n' ∉ line) : Word ⟨.comment, '/' :: '/' :: line⟩
  | endedRemark {line : Text} (inside : '\n' ∉ line) :
      Word ⟨.comment, '/' :: '/' :: (line ++ ['\n'])⟩
  | symbol {kind : Kind} {text : Text} (free : kind.isReserved = false)
      (spelled : kind.spelling? = some text) : Word ⟨kind, text⟩

/-- The lexeme at the front of a text: the longest word there, or else what is illegal. An open
string constant goes on up to the end of the text. -/
inductive Foremost (text : Text) : Lexeme → Prop where
  | word {lexeme : Lexeme} (word : lexeme.Word) (leads : lexeme.text <+: text)
      (longest : ∀ other : Lexeme, other.Word → other.text <+: text →
        other.text.length ≤ lexeme.text.length) : Foremost text lexeme
  | quote {rest : Text} (begins : text = '"' :: rest)
      (wordless : ∀ other : Lexeme, other.Word → ¬ other.text <+: text) :
      Foremost text ⟨.illegal, text⟩
  | character {first : Char} {rest : Text} (begins : text = first :: rest) (unquoted : first ≠ '"')
      (wordless : ∀ other : Lexeme, other.Word → ¬ other.text <+: text) :
      Foremost text ⟨.illegal, [first]⟩

variable {text : Text} {lexeme other : Lexeme}

theorem Word.eq_symbol {kind : Kind} (free : kind.isReserved = false)
    (spelled : kind.spelling? = some text) :
    ∃ symbol, kind = .symbol symbol ∧ text = symbol.spelling := by
  cases kind with
  | symbol symbol => exact ⟨symbol, rfl, (Option.some.inj spelled).symm⟩
  | keyword word => contradiction
  | _ => contradiction

/-- A word is read as itself, so it is of one kind only. -/
theorem Word.read_eq (word : lexeme.Word) : read lexeme.text = lexeme := by
  cases word with
  | name letter others free =>
      rw [read_of_isAlpha letter, Lexeme.word, List.takeWhile_eq_self_iff.mpr others,
        ofWord_eq_name_iff.mpr free]
  | reserved letter others listed =>
      rw [read_of_isAlpha letter, Lexeme.word, List.takeWhile_eq_self_iff.mpr others,
        ofWord_eq_keyword_iff.mpr listed]
  | number digit others =>
      rw [read_of_isDigit digit, digits, List.takeWhile_eq_self_iff.mpr others]
  | quotation inside => exact (read_quote _).trans (quotation_of_mem inside [])
  | remark inside => exact remark_of_notMem inside
  | endedRemark inside => exact remark_of_mem inside []
  | symbol free spelled =>
      obtain ⟨symbol, rfl, rfl⟩ := Word.eq_symbol free spelled
      cases symbol <;> decide

theorem Word.spelling_eq {reserved : Keyword} (word : lexeme.Word)
    (kind : lexeme.kind = .keyword reserved) : reserved.spelling = lexeme.text := by
  cases word with
  | reserved letter others listed =>
      obtain rfl := Kind.keyword.inj kind
      exact listed
  | symbol free spelled =>
      obtain ⟨symbol, rfl, rfl⟩ := Word.eq_symbol free spelled
      contradiction
  | _ => contradiction

theorem length_le_takeWhile {test : Char → Bool} {front : Text}
    (kept : ∀ c ∈ front, test c = true) (after : Text) :
    front.length ≤ ((front ++ after).takeWhile test).length := by
  rw [List.takeWhile_append_of_pos kept, List.length_append]
  exact Nat.le_add_right _ _

theorem word_length_le {first : Char} {rest : Text} (letter : first.isAlpha = true)
    (others : ∀ c ∈ rest, c.isAlphanum = true) (after : Text) :
    (read (first :: (rest ++ after))).kind ≠ .illegal ∧
      rest.length + 1 ≤ (read (first :: (rest ++ after))).text.length := by
  rw [read_of_isAlpha letter]
  refine ⟨?_, Nat.succ_le_succ (length_le_takeWhile others after)⟩
  rcases ofWord_cases (first :: (rest ++ after).takeWhile Char.isAlphanum) with
    same | ⟨reserved, same⟩ <;> simp [word, same]

/-- A symbol is not read as less than itself, though two strokes begin a remark. -/
theorem symbol_length_le (symbol : Symbol) (after : Text) :
    (read (symbol.spelling ++ after)).kind ≠ .illegal ∧
      symbol.spelling.length ≤ (read (symbol.spelling ++ after)).text.length := by
  obtain ⟨first, tail, spelled⟩ := List.exists_cons_of_ne_nil (Symbol.spelling_ne_nil symbol)
  have leads : symbol.spelling <+: first :: (tail ++ after) := ⟨after, by rw [spelled]; rfl⟩
  have member : first ∈ symbol.spelling := by simp [spelled]
  have plain := Symbol.plain_of_mem_spelling member
  have noLetter : ¬ first.isAlpha = true := fun letter => by
    simp [Char.isAlphanum, letter] at plain
  have noDigit : ¬ first.isDigit = true := fun digit => by
    simp [Char.isAlphanum, digit] at plain
  have whole : symbol.spelling ++ after = first :: (tail ++ after) := by rw [spelled]; rfl
  rw [whole]
  by_cases strokes : first = '/' ∧ (tail ++ after).head? = some '/'
  · obtain ⟨rfl, next⟩ := strokes
    obtain ⟨behind, split⟩ := List.head?_eq_some_iff.mp next
    rw [split]
    refine ⟨by simp [read, remark], ?_⟩
    have short := symbol.length_spelling
    simp only [read, remark, List.cons_append, List.length_cons]
    omega
  · rw [read_cons strokes, if_neg noLetter, if_neg noDigit, if_neg plain.2.1]
    exact length_le_mark leads

/-- A text that begins with a word is not read as something illegal, nor as less than the word. -/
theorem Word.length_le (word : other.Word) (leads : other.text <+: text) :
    (read text).kind ≠ .illegal ∧ other.text.length ≤ (read text).text.length := by
  obtain ⟨after, rfl⟩ := leads
  cases word with
  | name letter others => exact word_length_le letter others after
  | reserved letter others => exact word_length_le letter others after
  | number digit others =>
      rw [List.cons_append, read_of_isDigit digit]
      exact ⟨by simp [digits], Nat.succ_le_succ (length_le_takeWhile others after)⟩
  | quotation inside =>
      rw [List.cons_append, List.append_assoc, List.singleton_append, read_quote,
        quotation_of_mem inside]
      exact ⟨by simp, Nat.le_refl _⟩
  | @remark line inside =>
      have longer := length_le_takeWhile (forall_bne_of_notMem inside) after
      refine ⟨by simp [read, Lexeme.remark], ?_⟩
      simp only [List.cons_append, read, Lexeme.remark, List.length_cons, List.length_append]
      omega
  | @endedRemark line inside =>
      have read : read ('/' :: '/' :: (line ++ '\n' :: after)) =
          ⟨.comment, '/' :: '/' :: (line ++ ['\n'])⟩ := remark_of_mem inside after
      rw [List.cons_append, List.cons_append, List.append_assoc, List.singleton_append, read]
      exact ⟨by simp, Nat.le_refl _⟩
  | symbol free spelled =>
      obtain ⟨symbol, rfl, rfl⟩ := Word.eq_symbol free spelled
      exact symbol_length_le symbol after

/-- What is read at the front of a text is a word, unless it is illegal. -/
theorem word_read {text : Text} (unfinished : text ≠ []) (legal : (read text).kind ≠ .illegal) :
    (read text).Word := by
  fun_cases read text with
  | case1 => contradiction
  | case2 rest =>
      by_cases closed : '\n' ∈ rest
      · obtain ⟨line, after, rfl, inside⟩ := List.eq_append_cons_of_mem closed
        rw [remark_of_mem inside]
        exact .endedRemark inside
      · rw [remark_of_notMem closed]
        exact .remark closed
  | case3 first rest _ letter =>
      have others : ∀ c ∈ rest.takeWhile Char.isAlphanum, c.isAlphanum = true :=
        fun c member => List.mem_takeWhile_imp member
      rcases ofWord_cases (first :: rest.takeWhile Char.isAlphanum) with same | ⟨reserved, same⟩
      · rw [word, same]
        exact .name letter others (ofWord_eq_name_iff.mp same)
      · rw [word, same]
        exact .reserved letter others (ofWord_eq_keyword_iff.mp same)
  | case4 first rest _ _ digit =>
      exact .number digit fun c member => List.mem_takeWhile_imp member
  | case5 rest =>
      by_cases closed : '"' ∈ rest
      · obtain ⟨inner, after, rfl, inside⟩ := List.eq_append_cons_of_mem closed
        rw [quotation_of_mem inside]
        exact .quotation inside
      · rw [read_quote, quotation_of_notMem closed] at legal
        exact absurd rfl legal
  | case6 first rest noRemark noLetter noDigit unquoted =>
      have strokes : ¬ (first = '/' ∧ rest.head? = some '/') := by
        rintro ⟨rfl, next⟩
        obtain ⟨after, rfl⟩ := List.head?_eq_some_iff.mp next
        exact noRemark after rfl rfl
      rw [read_cons strokes, if_neg noLetter, if_neg noDigit, if_neg unquoted] at legal
      rcases mark_spelled first rest with illegal | ⟨symbol, taken, _⟩
      · rw [illegal] at legal
        contradiction
      · rw [taken]
        exact .symbol rfl rfl

theorem read_leads {text : Text} (unfinished : text ≠ []) : (read text).text <+: text := by
  obtain ⟨first, tail, after, split, spelled⟩ := read_split unfinished
  exact ⟨after, by rw [spelled, split, List.cons_append]⟩

theorem read_illegal (illegal : (read text).kind = .illegal) :
    (∃ rest, text = '"' :: rest ∧ read text = ⟨.illegal, text⟩) ∨
      ∃ first rest, text = first :: rest ∧ first ≠ '"' ∧ read text = ⟨.illegal, [first]⟩ := by
  have whole : read text = ⟨.illegal, (read text).text⟩ := by rw [← illegal]
  have shape := read_shape text
  simp only [Shape, illegal] at shape
  rcases shape with ⟨rest, begins, spelled⟩ | ⟨first, rest, begins, unquoted, spelled⟩
  · exact .inl ⟨rest, begins, by rw [whole, spelled, begins]⟩
  · exact .inr ⟨first, rest, begins, unquoted, by rw [whole, spelled]⟩

theorem illegal_of_wordless (unfinished : text ≠ [])
    (wordless : ∀ other : Lexeme, other.Word → ¬ other.text <+: text) :
    (read text).kind = .illegal := by
  by_contra legal
  exact wordless _ (word_read unfinished legal) (read_leads unfinished)

theorem foremost_read (unfinished : text ≠ []) : (read text).Foremost text := by
  by_cases illegal : (read text).kind = .illegal
  · have wordless : ∀ other : Lexeme, other.Word → ¬ other.text <+: text :=
      fun other word begins => (word.length_le begins).1 illegal
    rcases read_illegal illegal with ⟨rest, begins, same⟩ | ⟨first, rest, begins, unquoted, same⟩
    · rw [same]
      exact .quote begins wordless
    · rw [same]
      exact .character begins unquoted wordless
  · exact .word (word_read unfinished illegal) (read_leads unfinished)
      fun other word begins => (word.length_le begins).2

/-- No other lexeme stands at the front of a text than the one that is read there. -/
theorem Foremost.eq_read (unfinished : text ≠ []) (foremost : lexeme.Foremost text) :
    lexeme = read text := by
  cases foremost with
  | word word begins longest =>
      obtain ⟨legal, shorter⟩ := word.length_le begins
      have leads := read_leads unfinished
      have taken := word_read unfinished legal
      have same := Nat.le_antisymm shorter (longest _ taken leads)
      have equal : lexeme.text = (read text).text :=
        (List.prefix_of_prefix_length_le begins leads shorter).eq_of_length same
      rw [← word.read_eq, equal, taken.read_eq]
  | quote begins wordless =>
      rcases read_illegal (illegal_of_wordless unfinished wordless) with
        ⟨_, _, same⟩ | ⟨first, rest, split, unquoted, _⟩
      · exact same.symm
      · exact absurd (List.cons.inj (split.symm.trans begins)).1 unquoted
  | character begins unquoted wordless =>
      rcases read_illegal (illegal_of_wordless unfinished wordless) with
        ⟨rest, split, _⟩ | ⟨first, rest, split, _, same⟩
      · exact absurd (List.cons.inj (begins.symm.trans split)).1 unquoted
      · rw [same, (List.cons.inj (begins.symm.trans split)).1]

end Lexeme

/-- The place between two parts of a text. -/
def Cursor.between (front back : Text) : Cursor := ⟨front ++ back, back, front.size⟩

/-- Wherever a text is scanned in front of a character, what is scanned is the one lexeme that the
lexical grammar prescribes for the rest of the text, and the cursor passes it. -/
theorem scan_foremost (front : Text) (first : Char) (rest : Text) :
    ∃ lexeme back, (∀ other : Lexeme, other.Foremost (first :: rest) ↔ other = lexeme) ∧
      first :: rest = lexeme.text ++ back ∧
      Lexer.scan (.between front (first :: rest)) =
        (⟨lexeme, ⟨front.size, front.size + Text.size lexeme.text⟩⟩,
          .between (front ++ lexeme.text) back) := by
  have unfinished : first :: rest ≠ [] := List.cons_ne_nil first rest
  have foremost := Lexeme.foremost_read unfinished
  obtain ⟨back, split⟩ := Lexeme.read_leads unfinished
  refine ⟨Lexeme.read (first :: rest), back, fun other => ?_, split.symm, ?_⟩
  · exact ⟨Lexeme.Foremost.eq_read unfinished, fun same => same ▸ foremost⟩
  · rw [Lexer.scan_eq _ _ back split.symm rfl]
    simp only [Cursor.between, List.append_assoc, split, Text.size_append]

/-- Two strokes begin a remark and not a symbol, and a word is as long as it can be. -/
example :
    Lexeme.read "//=".toList = ⟨.comment, "//=".toList⟩ ∧
      Lexeme.read "/=".toList = ⟨.symbol .div, "/".toList⟩ ∧
      Lexeme.read "<<=".toList = ⟨.symbol .lShift, "<<".toList⟩ ∧
      Lexeme.read "dozen".toList = ⟨.name, "dozen".toList⟩ ∧
      Lexeme.read "do".toList = ⟨.keyword .do_, "do".toList⟩ := by
  decide

end Bcpl
