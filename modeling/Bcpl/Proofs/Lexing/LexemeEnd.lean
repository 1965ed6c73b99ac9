import Mathlib.Data.List.TakeWhile
import Bcpl.Proofs.Lexing.Symbols

/-!
Where a lexeme ends. What is read at the front of a text is a part of it, and of what follows that
part only the next character matters: `continuedBy` says which characters a lexeme would take in
(`read_append_iff`).
-/

namespace Bcpl.Lexeme

/-- Whether a lexeme goes on with a character that directly follows it. A remark goes on up to the
end of its line, and an open string constant up to the end of the text. -/
def continuedBy (lexeme : Lexeme) (c : Char) : Bool :=
  match lexeme.kind with
  | .name | .keyword _ => c.isAlphanum
  | .number => c.isDigit
  | .stringConst => false
  | .comment => lexeme.text.getLast? != some '\n'
  | .symbol _ | .illegal =>
      lexeme.text.head? == some '"' || lexeme.text ++ [c] == ['/', '/'] ||
        Symbol.all.any fun longer => longer.spelling == lexeme.text ++ [c]
  | .eof => true

/-- A lexeme ends in front of a text that it does not go on with. -/
def EndsBefore (lexeme : Lexeme) (rest : Text) : Prop :=
  ∀ c ∈ rest.head?, lexeme.continuedBy c = false

variable {first : Char} {tail rest : Text} {lexeme : Lexeme}

theorem takeWhile_append_eq_iff {test : Char → Bool} :
    (tail ++ rest).takeWhile test = tail ↔
      tail.takeWhile test = tail ∧ ∀ c ∈ rest.head?, test c = false := by
  induction tail with
  | nil => cases rest <;> simp [List.takeWhile_cons]
  | cons c tail ih =>
      by_cases kept : test c
      · simp [kept, ih]
      · simp [kept]

theorem ofWord_cases (word : Text) :
    Kind.ofWord word = .name ∨ ∃ reserved, Kind.ofWord word = .keyword reserved := by
  unfold Kind.ofWord
  split
  · split
    · next reserved _ => exact .inr ⟨reserved, rfl⟩
    · exact .inl rfl
  · exact .inl rfl

theorem word_append_iff (spelled : lexeme.text = first :: tail) :
    word first (tail ++ rest) = lexeme ↔ word first tail = lexeme ∧ lexeme.EndsBefore rest := by
  obtain ⟨kind, text⟩ := lexeme
  cases spelled
  have ends : kind = Kind.ofWord (first :: tail) → ∀ c,
      continuedBy ⟨kind, first :: tail⟩ c = c.isAlphanum := by
    intro same c
    subst same
    rcases ofWord_cases (first :: tail) with same | ⟨reserved, same⟩ <;>
      simp only [continuedBy, same]
  have split : ∀ after, word first after = ⟨kind, first :: tail⟩ ↔
      after.takeWhile Char.isAlphanum = tail ∧ kind = Kind.ofWord (first :: tail) := by
    intro after
    simp only [word, Lexeme.mk.injEq, List.cons.injEq, true_and]
    constructor
    · intro whole
      obtain ⟨rfl, same⟩ := whole
      exact ⟨same, by rw [same]⟩
    · intro parts
      obtain ⟨same, rfl⟩ := parts
      exact ⟨by rw [same], same⟩
  rw [split, split, takeWhile_append_eq_iff]
  constructor
  · intro whole
    obtain ⟨⟨kept, stops⟩, same⟩ := whole
    exact ⟨⟨kept, same⟩, fun c next => (ends same c).trans (stops c next)⟩
  · intro parts
    obtain ⟨⟨kept, same⟩, stops⟩ := parts
    exact ⟨⟨kept, fun c next => (ends same c).symm.trans (stops c next)⟩, same⟩

theorem digits_append_iff (spelled : lexeme.text = first :: tail) :
    digits first (tail ++ rest) = lexeme ↔ digits first tail = lexeme ∧ lexeme.EndsBefore rest := by
  obtain ⟨kind, text⟩ := lexeme
  cases spelled
  simp only [digits, Lexeme.mk.injEq, List.cons.injEq, true_and, takeWhile_append_eq_iff,
    EndsBefore]
  constructor
  · intro whole
    obtain ⟨rfl, kept, stops⟩ := whole
    exact ⟨⟨rfl, kept⟩, stops⟩
  · intro parts
    obtain ⟨⟨rfl, kept⟩, stops⟩ := parts
    exact ⟨rfl, kept, stops⟩

theorem forall_bne_of_notMem {d : Char} {text : Text} (absent : d ∉ text) :
    ∀ c ∈ text, (c != d) = true := by
  intro c member
  simpa using ne_of_mem_of_not_mem member absent

theorem remark_of_mem {line : Text} (inside : '\n' ∉ line) (after : Text) :
    remark (line ++ '\n' :: after) = ⟨.comment, '/' :: '/' :: (line ++ ['\n'])⟩ := by
  have kept := forall_bne_of_notMem inside
  simp [remark, List.takeWhile_append_of_pos kept, List.dropWhile_append_of_pos kept]

theorem remark_of_notMem {line : Text} (inside : '\n' ∉ line) :
    remark line = ⟨.comment, '/' :: '/' :: line⟩ := by
  have kept := forall_bne_of_notMem inside
  simp [remark, List.takeWhile_eq_self_iff.mpr kept, List.dropWhile_eq_nil_iff.mpr kept]

theorem quotation_of_mem {inner : Text} (inside : '"' ∉ inner) (after : Text) :
    quotation (inner ++ '"' :: after) = ⟨.stringConst, '"' :: (inner ++ ['"'])⟩ := by
  have kept := forall_bne_of_notMem inside
  simp [quotation, List.takeWhile_append_of_pos kept, List.dropWhile_append_of_pos kept]

theorem quotation_of_notMem {inner : Text} (inside : '"' ∉ inner) :
    quotation inner = ⟨.illegal, '"' :: inner⟩ := by
  have kept := forall_bne_of_notMem inside
  simp [quotation, List.dropWhile_eq_nil_iff.mpr kept]

theorem endsBefore_iff_of_open (rest : Text) (goesOn : ∀ c, lexeme.continuedBy c = true) :
    lexeme.EndsBefore rest ↔ rest = [] := by
  cases rest with
  | nil => simp [EndsBefore]
  | cons c rest => simp [EndsBefore, goesOn]

theorem endsBefore_of_closed (closed : ∀ c, lexeme.continuedBy c = false) :
    lexeme.EndsBefore rest := fun c _ => closed c

/-- A lexeme that runs up to a closing character is read in the same way in front of any text, and
one that never meets it takes in the whole text. -/
theorem closing_append_iff (opening : Text) {close : Char} {reading : Text → Lexeme}
    {shut goes : Kind} {tail : Text}
    (shuts : ∀ {inner} after, close ∉ inner →
      reading (inner ++ close :: after) = ⟨shut, opening ++ (inner ++ [close])⟩)
    (goesOn : ∀ {inner}, close ∉ inner → reading inner = ⟨goes, opening ++ inner⟩)
    (final : ∀ inner c, continuedBy ⟨shut, opening ++ (inner ++ [close])⟩ c = false)
    (greedy : ∀ inner c, close ∉ inner → continuedBy ⟨goes, opening ++ inner⟩ c = true)
    (spelled : lexeme.text = opening ++ tail) :
    reading (tail ++ rest) = lexeme ↔ reading tail = lexeme ∧ lexeme.EndsBefore rest := by
  obtain ⟨kind, text⟩ := lexeme
  obtain rfl : text = opening ++ tail := spelled
  by_cases closed : close ∈ tail
  · obtain ⟨inner, others, rfl, inside⟩ := List.eq_append_cons_of_mem closed
    rw [List.append_assoc, List.cons_append, shuts _ inside, shuts _ inside]
    refine ⟨fun same => ⟨same, endsBefore_of_closed fun c => ?_⟩, And.left⟩
    rw [← same]
    exact final inner c
  · rw [goesOn closed]
    have ends_iff := endsBefore_iff_of_open rest (greedy tail · closed)
    constructor
    · intro same
      -- A closing character further on would make the lexeme longer than it is.
      by_cases later : close ∈ rest
      · obtain ⟨inner, others, rfl, inside⟩ := List.eq_append_cons_of_mem later
        rw [← List.append_assoc, shuts _ (by simp [closed, inside])] at same
        have longer := congrArg (List.length ∘ Lexeme.text) same
        simp only [Function.comp_apply, List.length_append, List.length_cons] at longer
        omega
      · rw [goesOn (by simp [closed, later])] at same
        simp only [Lexeme.mk.injEq, List.append_cancel_left_eq, List.append_right_eq_self] at same
        obtain ⟨rfl, finished⟩ := same
        exact ⟨rfl, ends_iff.mpr finished⟩
    · intro parts
      obtain ⟨same, ends⟩ := parts
      rw [← same] at ends
      rw [ends_iff.mp ends, List.append_nil, goesOn closed, same]

theorem remark_append_iff {tail : Text} (spelled : lexeme.text = '/' :: '/' :: tail) :
    remark (tail ++ rest) = lexeme ↔ remark tail = lexeme ∧ lexeme.EndsBefore rest := by
  refine closing_append_iff ['/', '/'] (fun after inside => remark_of_mem inside after)
    remark_of_notMem (fun inner c => ?_) (fun inner c inside => ?_) spelled
  · have last : (['/', '/'] ++ (inner ++ ['\n'])).getLast? = some '\n' := by
      rw [← List.append_assoc, List.getLast?_concat]
    simp only [continuedBy, last, bne_self_eq_false]
  · have last : (['/', '/'] ++ inner).getLast? ≠ some '\n' := by
      intro ended
      have member := List.mem_of_getLast? ended
      simp [inside] at member
    simpa only [continuedBy, bne_iff_ne] using last

theorem quotation_append_iff {tail : Text} (spelled : lexeme.text = '"' :: tail) :
    quotation (tail ++ rest) = lexeme ↔ quotation tail = lexeme ∧ lexeme.EndsBefore rest := by
  refine closing_append_iff ['"'] (fun after inside => quotation_of_mem inside after)
    quotation_of_notMem (fun inner c => rfl) (fun inner c _ => ?_) spelled
  simp [continuedBy]

theorem endsBefore_mark_iff (plain : lexeme.kind = .illegal ∨ ∃ s, lexeme.kind = .symbol s)
    (unquoted : lexeme.text.head? ≠ some '"') :
    lexeme.EndsBefore rest ↔ ∀ c ∈ rest.head?, lexeme.text ++ [c] ≠ ['/', '/'] ∧
      ∀ symbol : Symbol, symbol.spelling ≠ lexeme.text ++ [c] := by
  have every : ∀ c, (∀ symbol ∈ Symbol.all, symbol.spelling ≠ lexeme.text ++ [c]) ↔
      ∀ symbol : Symbol, symbol.spelling ≠ lexeme.text ++ [c] := fun c =>
    ⟨fun other symbol => other symbol symbol.mem_all, fun other symbol _ => other symbol⟩
  rcases plain with same | ⟨s, same⟩ <;> simp [EndsBefore, continuedBy, same, unquoted, every]

theorem mark_eq_iff {after : Text} :
    mark first after = lexeme ↔
      (∃ symbol, lexeme = ⟨.symbol symbol, symbol.spelling⟩ ∧
        Symbol.leading? (first :: after) = some symbol) ∨
      (lexeme = ⟨.illegal, [first]⟩ ∧ Symbol.leading? (first :: after) = none) := by
  rw [mark_eq]
  cases Symbol.leading? (first :: after) with
  | some symbol => simp [eq_comm]
  | none => simp [eq_comm]

theorem mark_append_iff (spelled : lexeme.text = first :: tail) (unquoted : first ≠ '"')
    (noRemark : ¬ (first = '/' ∧ (tail ++ rest).head? = some '/')) :
    mark first (tail ++ rest) = lexeme ↔ mark first tail = lexeme ∧ lexeme.EndsBefore rest := by
  have visible : lexeme.text.head? ≠ some '"' := by simpa [spelled] using unquoted
  have noStrokes : ∀ c ∈ rest.head?, lexeme.text ++ [c] ≠ ['/', '/'] := by
    intro c next same
    rw [spelled] at same
    cases tail with
    | nil =>
        -- A second stroke would have made this a remark.
        obtain ⟨stroke, alone⟩ : first = '/' ∧ c = '/' := by simpa using same
        exact noRemark ⟨stroke, alone ▸ next⟩
    | cons d tail => simp at same
  rw [mark_eq_iff, mark_eq_iff]
  constructor
  · intro whole
    obtain ⟨symbol, rfl, found⟩ | ⟨rfl, absent⟩ := whole
    · have fixed := (Symbol.leading?_append_eq_some_iff spelled).mp found
      have alone : Symbol.leading? (first :: tail) = some symbol := by
        rw [← List.append_nil (first :: tail), Symbol.leading?_append_eq_some_iff spelled]
        simp
      refine ⟨.inl ⟨symbol, rfl, alone⟩, ?_⟩
      rw [endsBefore_mark_iff (.inr ⟨symbol, rfl⟩) visible]
      exact fun c next => ⟨noStrokes c next, spelled ▸ fixed c next⟩
    · cases spelled
      obtain ⟨alone, fixed⟩ :=
        (Symbol.leading?_append_eq_none_iff (List.cons_ne_nil first [])).mp absent
      refine ⟨.inr ⟨rfl, alone⟩, ?_⟩
      rw [endsBefore_mark_iff (.inl rfl) visible]
      exact fun c next => ⟨noStrokes c next, fixed c next⟩
  · intro parts
    obtain ⟨⟨symbol, rfl, found⟩ | ⟨rfl, absent⟩, ends⟩ := parts
    · rw [endsBefore_mark_iff (.inr ⟨symbol, rfl⟩) visible] at ends
      refine .inl ⟨symbol, rfl, ?_⟩
      exact (Symbol.leading?_append_eq_some_iff spelled).mpr
        fun c next => spelled ▸ (ends c next).2
    · cases spelled
      rw [endsBefore_mark_iff (.inl rfl) visible] at ends
      refine .inr ⟨rfl, ?_⟩
      rw [← List.singleton_append, Symbol.leading?_append_eq_none_iff (List.cons_ne_nil first [])]
      exact ⟨absent, fun c next => (ends c next).2⟩

theorem isDigit_of_isAlpha {c : Char} (letter : c.isAlpha = true) : c.isDigit = false := by
  delta Char.isAlpha Char.isUpper Char.isLower at letter
  simp only [Char.isDigit, Bool.or_eq_true, Bool.and_eq_true, decide_eq_true_eq,
    Bool.and_eq_false_iff, decide_eq_false_iff_not, ge_iff_le, UInt32.le_iff_toNat_le] at letter ⊢
  simp at letter ⊢
  omega

theorem read_cons (noRemark : ¬ (first = '/' ∧ rest.head? = some '/')) :
    read (first :: rest) =
      if first.isAlpha then word first rest
      else if first.isDigit then digits first rest
      else if first = '"' then quotation rest
      else mark first rest := by
  rw [read]
  rintro after rfl rfl
  exact noRemark ⟨rfl, rfl⟩

theorem read_of_isAlpha (letter : first.isAlpha = true) :
    read (first :: rest) = word first rest := by
  have noRemark : ¬ (first = '/' ∧ rest.head? = some '/') := by
    rintro ⟨rfl, _⟩
    contradiction
  rw [read_cons noRemark, if_pos letter]

theorem read_of_isDigit (digit : first.isDigit = true) :
    read (first :: rest) = digits first rest := by
  have noRemark : ¬ (first = '/' ∧ rest.head? = some '/') := by
    rintro ⟨rfl, _⟩
    contradiction
  have noLetter : ¬ first.isAlpha = true := fun letter => by
    simp [isDigit_of_isAlpha letter] at digit
  rw [read_cons noRemark, if_neg noLetter, if_pos digit]

theorem read_quote (rest : Text) : read ('"' :: rest) = quotation rest := by
  rw [read_cons (by simp), if_neg (by decide), if_neg (by decide), if_pos rfl]

theorem read_stroke_ne (spelled : lexeme.text = ['/']) (next : rest.head? = some '/') :
    read (lexeme.text ++ rest) ≠ lexeme ∧
      ¬ (read lexeme.text = lexeme ∧ lexeme.EndsBefore rest) := by
  obtain ⟨after, rfl⟩ := List.head?_eq_some_iff.mp next
  constructor
  · intro same
    rw [spelled] at same
    have texts := (congrArg Lexeme.text same).trans spelled
    simp [read, remark] at texts
  · intro parts
    obtain ⟨same, ends⟩ := parts
    have refused := ends '/' next
    rw [← same, spelled] at refused
    contradiction

/-- A lexeme is read in front of a text if it is read on its own and does not go on with that
text. -/
theorem read_append_iff (visible : lexeme.text ≠ []) :
    read (lexeme.text ++ rest) = lexeme ↔ read lexeme.text = lexeme ∧ lexeme.EndsBefore rest := by
  obtain ⟨first, tail, spelled⟩ := List.exists_cons_of_ne_nil visible
  by_cases strokes : first = '/' ∧ (tail ++ rest).head? = some '/'
  · obtain ⟨rfl, next⟩ := strokes
    cases tail with
    | nil =>
        have refused := read_stroke_ne spelled next
        exact iff_of_false refused.1 refused.2
    | cons second tail =>
        obtain rfl : second = '/' := Option.some.inj next
        rw [spelled]
        exact remark_append_iff spelled
  · have alone : ¬ (first = '/' ∧ tail.head? = some '/') := by
      intro doubled
      obtain ⟨stroke, next⟩ := doubled
      obtain ⟨after, rfl⟩ := List.head?_eq_some_iff.mp next
      exact strokes ⟨stroke, rfl⟩
    rw [spelled, List.cons_append, read_cons strokes, read_cons alone]
    split_ifs with letter digit quote
    · exact word_append_iff spelled
    · exact digits_append_iff spelled
    · subst quote
      exact quotation_append_iff spelled
    · exact mark_append_iff spelled quote strokes

theorem read_split {text : Text} (unfinished : text ≠ []) :
    ∃ first tail after, text = first :: (tail ++ after) ∧ (read text).text = first :: tail := by
  fun_cases read text with
  | case1 => contradiction
  | case2 rest =>
      refine ⟨'/', '/' :: (rest.takeWhile (· != '\n') ++ (rest.dropWhile (· != '\n')).take 1),
        (rest.dropWhile (· != '\n')).drop 1, ?_, rfl⟩
      rw [List.cons_append, List.append_assoc, List.take_append_drop,
        List.takeWhile_append_dropWhile]
  | case3 first rest =>
      refine ⟨first, rest.takeWhile Char.isAlphanum, rest.dropWhile Char.isAlphanum, ?_, rfl⟩
      rw [List.takeWhile_append_dropWhile]
  | case4 first rest =>
      refine ⟨first, rest.takeWhile Char.isDigit, rest.dropWhile Char.isDigit, ?_, rfl⟩
      rw [List.takeWhile_append_dropWhile]
  | case5 rest =>
      by_cases closed : '"' ∈ rest
      · obtain ⟨inner, after, rfl, inside⟩ := List.eq_append_cons_of_mem closed
        exact ⟨'"', inner ++ ['"'], after, by simp, by rw [quotation_of_mem inside]⟩
      · exact ⟨'"', rest, [], by simp, by rw [quotation_of_notMem closed]⟩
  | case6 first rest =>
      rcases mark_spelled first rest with illegal | ⟨symbol, taken, after, split⟩
      · exact ⟨first, [], rest, rfl, by rw [illegal]⟩
      · obtain ⟨c, tail, spelled⟩ := List.exists_cons_of_ne_nil symbol.spelling_ne_nil
        rw [spelled] at split
        exact ⟨c, tail, after, split.symm, by rw [taken, spelled]⟩

end Bcpl.Lexeme
