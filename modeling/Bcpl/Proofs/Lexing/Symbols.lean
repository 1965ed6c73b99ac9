import Mathlib.Data.List.Nodup
import Bcpl.Token.Lexeme

/-!
The longest symbol whose spelling is written at the front of a text. Two symbols never share a
spelling, and no spelling is longer than two characters, so it is enough to look at two characters
and then at one, as the scan of a mark does (`Lexeme.mark_eq`).
-/

namespace Bcpl

namespace Symbol

theorem mem_all (symbol : Symbol) : symbol ∈ all := by
  cases symbol <;> decide

theorem length_spelling (symbol : Symbol) :
    symbol.spelling.length = 1 ∨ symbol.spelling.length = 2 := by
  cases symbol <;> decide

theorem spelling_injective : Function.Injective spelling := by
  have distinct : (all.map spelling).Nodup := by decide
  intro first second same
  exact List.inj_on_of_nodup_map distinct (mem_all first) (mem_all second) same

theorem plain_of_mem_spelling {symbol : Symbol} {c : Char} (member : c ∈ symbol.spelling) :
    c.isAlphanum = false ∧ c ≠ '"' ∧ c ≠ ' ' ∧ c ≠ '\t' ∧ c ≠ '\r' ∧ c ≠ '\n' := by
  have plain : symbol.spelling.all fun c => c.isAlphanum = false ∧ c ≠ '"' ∧ c ≠ ' ' ∧
      c ≠ '\t' ∧ c ≠ '\r' ∧ c ≠ '\n' := by
    cases symbol <;> decide
  exact of_decide_eq_true (List.all_eq_true.mp plain c member)

variable {text : Text} {length : Nat} {symbol : Symbol}

theorem spelling_ne_nil (symbol : Symbol) : symbol.spelling ≠ [] := by
  cases symbol <;> decide

/-- The symbol of a given length at the front of a text. -/
def ofLength? (length : Nat) (text : Text) : Option Symbol :=
  all.find? fun symbol => symbol.spelling.length == length && symbol.spelling.isPrefixOf text

/-- The longest symbol at the front of a text. -/
def leading? (text : Text) : Option Symbol := (ofLength? 2 text).or (ofLength? 1 text)

theorem ofLength?_eq_none_iff :
    ofLength? length text = none ↔
      ∀ symbol : Symbol, symbol.spelling.length = length → ¬ symbol.spelling <+: text := by
  simp only [ofLength?, List.find?_eq_none, Bool.and_eq_true, beq_iff_eq,
    List.isPrefixOf_iff_prefix, not_and]
  exact ⟨fun absent symbol => absent symbol (mem_all symbol), fun absent symbol _ => absent symbol⟩

theorem ofLength?_eq_some_iff :
    ofLength? length text = some symbol ↔
      symbol.spelling.length = length ∧ symbol.spelling <+: text := by
  constructor
  · intro found
    have kept := List.find?_some found
    simpa only [Bool.and_eq_true, beq_iff_eq, List.isPrefixOf_iff_prefix] using kept
  · intro written
    obtain ⟨counted, leads⟩ := written
    cases found : ofLength? length text with
    | none => exact absurd leads (ofLength?_eq_none_iff.mp found symbol counted)
    | some other =>
        have kept := List.find?_some found
        simp only [Bool.and_eq_true, beq_iff_eq, List.isPrefixOf_iff_prefix] at kept
        have nested := List.prefix_of_prefix_length_le kept.2 leads (by omega)
        have same := nested.eq_of_length (by omega)
        rw [spelling_injective same]

theorem leading?_eq_some_iff :
    leading? text = some symbol ↔
      symbol.spelling <+: text ∧
        ∀ other : Symbol, other.spelling <+: text →
          other.spelling.length ≤ symbol.spelling.length := by
  unfold leading?
  cases long : ofLength? 2 text with
  | some pair =>
      obtain ⟨counted, leads⟩ := ofLength?_eq_some_iff.mp long
      simp only [Option.some_or, Option.some.injEq]
      constructor
      · intro same
        subst same
        refine ⟨leads, fun other _ => ?_⟩
        rcases other.length_spelling with short | short <;> omega
      · intro found
        obtain ⟨written, longest⟩ := found
        have least := longest pair leads
        have twice : symbol.spelling.length = 2 := by
          rcases symbol.length_spelling with short | short <;> omega
        have again := ofLength?_eq_some_iff.mpr ⟨twice, written⟩
        exact Option.some.inj (long.symm.trans again)
  | none =>
      have absent := ofLength?_eq_none_iff.mp long
      rw [Option.none_or, ofLength?_eq_some_iff]
      constructor
      · intro found
        obtain ⟨counted, leads⟩ := found
        refine ⟨leads, fun other written => ?_⟩
        rcases other.length_spelling with short | short
        · omega
        · exact absurd written (absent other short)
      · intro found
        obtain ⟨leads, _⟩ := found
        refine ⟨?_, leads⟩
        rcases symbol.length_spelling with short | short
        · exact short
        · exact absurd leads (absent symbol short)

theorem leading?_eq_none_iff :
    leading? text = none ↔ ∀ symbol : Symbol, ¬ symbol.spelling <+: text := by
  rw [leading?, Option.or_eq_none_iff, ofLength?_eq_none_iff, ofLength?_eq_none_iff]
  constructor
  · intro absent symbol
    obtain ⟨long, short⟩ := absent
    rcases symbol.length_spelling with counted | counted
    · exact short symbol counted
    · exact long symbol counted
  · intro absent
    exact ⟨fun symbol _ => absent symbol, fun symbol _ => absent symbol⟩

variable {rest : Text}

/-- A symbol at the front of a text in two parts reaches at most one character into the second. -/
theorem prefix_append_iff (visible : text ≠ []) :
    symbol.spelling <+: text ++ rest ↔
      symbol.spelling <+: text ∨ ∃ c ∈ rest.head?, symbol.spelling = text ++ [c] := by
  constructor
  · intro leads
    by_cases short : symbol.spelling.length ≤ text.length
    · exact .inl (List.prefix_of_prefix_length_le leads (List.prefix_append text rest) short)
    -- A spelling that reaches further has two characters, and the first part holds one of them.
    · obtain ⟨extra, split⟩ :=
        List.prefix_of_prefix_length_le (List.prefix_append text rest) leads (by omega)
      have counted := congrArg List.length split
      have some := List.length_pos_iff.mpr visible
      rw [List.length_append] at counted
      obtain ⟨c, rfl⟩ : ∃ c, extra = [c] := by
        apply List.length_eq_one_iff.mp
        rcases symbol.length_spelling with one | two <;> omega
      rw [← split, List.prefix_append_right_inj] at leads
      obtain ⟨after, rfl⟩ := leads
      exact .inr ⟨c, rfl, split.symm⟩
  · intro written
    obtain leads | ⟨c, next, spelled⟩ := written
    · exact leads.trans (List.prefix_append text rest)
    · obtain ⟨after, rfl⟩ := List.head?_eq_some_iff.mp next
      rw [spelled, List.prefix_append_right_inj]
      exact List.prefix_append [c] after

theorem leading?_append_eq_some_iff (spelled : symbol.spelling = text) :
    leading? (text ++ rest) = some symbol ↔
      ∀ c ∈ rest.head?, ∀ other : Symbol, other.spelling ≠ text ++ [c] := by
  subst text
  have visible : symbol.spelling ≠ [] := spelling_ne_nil symbol
  simp only [leading?_eq_some_iff, prefix_append_iff visible]
  constructor
  · intro found c next other same
    obtain ⟨_, longest⟩ := found
    have bounded := longest other (.inr ⟨c, next, same⟩)
    rw [same, List.length_append, List.length_singleton] at bounded
    omega
  · intro fixed
    refine ⟨.inl (List.prefix_refl _), fun other written => ?_⟩
    rcases written with leads | ⟨c, next, same⟩
    · exact leads.length_le
    · exact absurd same (fixed c next other)

theorem leading?_append_eq_none_iff (visible : text ≠ []) :
    leading? (text ++ rest) = none ↔
      leading? text = none ∧ ∀ c ∈ rest.head?, ∀ other : Symbol, other.spelling ≠ text ++ [c] := by
  simp only [leading?_eq_none_iff, prefix_append_iff visible, not_or, not_exists, not_and]
  exact ⟨fun absent => ⟨fun symbol => (absent symbol).1, fun c next other =>
    (absent other).2 c next⟩, fun absent symbol => ⟨absent.1 symbol, fun c next =>
    absent.2 c next symbol⟩⟩

end Symbol

namespace Lexeme

variable {symbol : Symbol} {first second : Char} {rest : Text}

/-- What is taken for a mark is one illegal character, or a symbol as it is spelled. -/
theorem mark_spelled (first : Char) (rest : Text) :
    mark first rest = ⟨.illegal, [first]⟩ ∨ ∃ symbol : Symbol,
      mark first rest = ⟨.symbol symbol, symbol.spelling⟩ ∧
        symbol.spelling <+: first :: rest := by
  unfold mark
  fun_cases markKind first rest <;>
    first
    | exact .inl rfl
    | exact .inr ⟨_, rfl, _, rfl⟩
    | next next =>
        -- Behind a guard, the second character is the one that was looked for.
        obtain ⟨tail, rfl⟩ := List.head?_eq_some_iff.mp next
        exact .inr ⟨_, rfl, _, rfl⟩

/-- A symbol of two characters is taken whole, whatever follows it. -/
theorem mark_of_pair (spelled : symbol.spelling = [first, second]) (after : Text) :
    mark first (second :: after) = ⟨.symbol symbol, [first, second]⟩ := by
  cases symbol <;> cases spelled <;> rfl

/-- A character that is a symbol of its own is not illegal, whatever follows it. -/
theorem kind_mark_of_single (spelled : symbol.spelling = [first]) (rest : Text) :
    (mark first rest).kind ≠ .illegal := by
  cases symbol <;> simp [Symbol.spelling] at spelled <;> subst first <;> grind [mark, markKind]

theorem length_le_mark (leads : symbol.spelling <+: first :: rest) :
    (mark first rest).kind ≠ .illegal ∧
      symbol.spelling.length ≤ (mark first rest).text.length := by
  obtain ⟨after, split⟩ := leads
  rcases symbol.length_spelling with one | two
  · obtain ⟨c, spelled⟩ := List.length_eq_one_iff.mp one
    rw [spelled] at split
    obtain ⟨rfl, rfl⟩ := List.cons.inj split
    rw [one]
    exact ⟨kind_mark_of_single spelled _, Nat.succ_le_succ (Nat.zero_le _)⟩
  · obtain ⟨c, d, spelled⟩ := List.length_eq_two.mp two
    rw [spelled] at split
    obtain ⟨rfl, rfl⟩ := List.cons.inj split
    have taken : mark c ([d].append after) = ⟨.symbol symbol, [c, d]⟩ :=
      mark_of_pair spelled after
    rw [two, taken]
    exact ⟨Kind.noConfusion, Nat.le_refl _⟩

/-- The scan of a mark takes the longest symbol, or else one illegal character. -/
theorem mark_eq (first : Char) (rest : Text) : mark first rest =
    match Symbol.leading? (first :: rest) with
    | some symbol => ⟨.symbol symbol, symbol.spelling⟩
    | none => ⟨.illegal, [first]⟩ := by
  rcases mark_spelled first rest with illegal | ⟨symbol, taken, leads⟩
  · have wordless : Symbol.leading? (first :: rest) = none :=
      Symbol.leading?_eq_none_iff.mpr fun symbol leads =>
        (length_le_mark leads).1 (by rw [illegal])
    rw [wordless, illegal]
  · have longest : Symbol.leading? (first :: rest) = some symbol :=
      Symbol.leading?_eq_some_iff.mpr
        ⟨leads, fun other begins => by simpa only [taken] using (length_le_mark begins).2⟩
    rw [longest, taken]

end Lexeme

end Bcpl
