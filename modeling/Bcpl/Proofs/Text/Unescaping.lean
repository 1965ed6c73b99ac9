import Bcpl.Proofs.Text.SingleLine

/-!
Escaped texts read back. Whatever is written for a character is read as that character, whatever
follows it (`Restores`), and so an escaped text gives back the text (`unescape?_escape`).
-/

namespace Bcpl.Text

/-- The value of a digit of a hexadecimal number. -/
def hexadecimalValue? (c : Char) : Option Nat :=
  if c.isDigit then some (c.toNat - '0'.toNat)
  else if 'a' ≤ c ∧ c ≤ 'f' then some (c.toNat - 'a'.toNat + 10)
  else none

def ofHexadecimal? (digits : Text) : Option Nat :=
  digits.foldlM (fun value digit => (hexadecimalValue? digit).map (16 * value + ·)) 0

/-- The character with the number that some digits write. -/
def ofCodePoint? (digits : Text) : Option Char := do
  let n ← ofHexadecimal? digits
  if digits ≠ [] ∧ n.isValidChar then some (Char.ofNat n) else none

/-- The character that a letter behind a backslash stands for. -/
def ofEscapeLetter? : Char → Option Char
  | '0' => some '\x00'
  | 't' => some '\t'
  | 'r' => some '\r'
  | 'n' => some '\n'
  | '\'' => some '\''
  | '"' => some '"'
  | '\\' => some '\\'
  | _ => none

/-- A text with its escapes undone, if there is nothing wrong with them. -/
def unescape? : Text → Option Text
  | [] => some []
  | ['\\'] => none
  | '\\' :: 'u' :: '{' :: rest =>
      if '}' ∈ rest then do
        let c ← ofCodePoint? (rest.takeWhile (· ≠ '}'))
        let following ← unescape? ((rest.dropWhile (· ≠ '}')).drop 1)
        return c :: following
      else none
  | '\\' :: letter :: rest => do
      let c ← ofEscapeLetter? letter
      let following ← unescape? rest
      return c :: following
  | c :: rest => do
      let following ← unescape? rest
      return c :: following
termination_by text => text.length
decreasing_by
  · have dropped := (List.dropWhile_sublist (l := rest) (· ≠ '}')).length_le
    simp only [List.length_drop, List.length_cons]
    omega
  all_goals simp only [List.length_cons]; omega

section Numbers

theorem hexadecimalValue?_digitChar {digit : Nat} (small : digit < 16) :
    hexadecimalValue? (Nat.digitChar digit) = some digit := by
  revert digit
  decide

theorem ofHexadecimal?_hexadecimal (n : Nat) : ofHexadecimal? (hexadecimal n) = some n := by
  induction n using Nat.strongRecOn with
  | ind n ih =>
      rw [hexadecimal, Nat.toDigits_eq_if (by decide)]
      split
      · next small => simp [ofHexadecimal?, hexadecimalValue?_digitChar small]
      · next large =>
          have front : ofHexadecimal? (hexadecimal (n / 16)) = some (n / 16) := ih _ (by omega)
          have last := hexadecimalValue?_digitChar (Nat.mod_lt n (by decide : 0 < 16))
          rw [ofHexadecimal?, hexadecimal] at front
          simp only [ofHexadecimal?, List.foldlM_append, front, List.foldlM_cons, List.foldlM_nil,
            Option.bind_eq_bind, Option.bind_some, last, Option.map_some, Option.pure_def]
          rw [Nat.div_add_mod]

theorem ofCodePoint?_hexadecimal (c : Char) : ofCodePoint? (hexadecimal c.toNat) = some c := by
  have digits : hexadecimal c.toNat ≠ [] := Nat.toDigits_ne_nil
  have valid : c.toNat.isValidChar := c.valid
  simp [ofCodePoint?, ofHexadecimal?_hexadecimal, digits, valid, Char.ofNat_toNat]

theorem forall_hexadecimal_ne (n : Nat) : ∀ c ∈ hexadecimal n, c ≠ '}' := by
  rintro c member rfl
  exact absurd (toDigits_plain member) (by decide)

end Numbers

/-- What is written for a character is read back as this character, whatever follows. -/
def Restores (written : Text) (c : Char) : Prop :=
  ∀ rest, unescape? (written ++ rest) = (unescape? rest).map (c :: ·)

theorem restores_escapeCodePoint (c : Char) : Restores (escapeCodePoint c) c := by
  intro rest
  have digits : ∀ digit ∈ hexadecimal c.toNat, decide (digit ≠ '}') = true := by
    simpa using forall_hexadecimal_ne c.toNat
  have written : escapeCodePoint c ++ rest =
      '\\' :: 'u' :: '{' :: (hexadecimal c.toNat ++ '}' :: rest) := by
    simp [escapeCodePoint]
  have closed : '}' ∈ hexadecimal c.toNat ++ '}' :: rest :=
    List.mem_append_right _ List.mem_cons_self
  rw [written, unescape?, if_pos closed, List.takeWhile_append_of_pos digits,
    List.dropWhile_append_of_pos digits]
  simp only [ne_eq, not_true, decide_false, Bool.false_eq_true, not_false_iff,
    List.takeWhile_cons_of_neg, List.dropWhile_cons_of_neg, List.append_nil, List.drop_one,
    List.tail_cons, ofCodePoint?_hexadecimal]
  cases unescape? rest <;> rfl

theorem restores_escapeLetter {c letter : Char} (named : escapeLetter? c = some letter) :
    Restores ['\\', letter] c := by
  intro rest
  have read : letter ≠ 'u' ∧ ofEscapeLetter? letter = some c := by
    unfold escapeLetter? at named
    split at named <;> cases named <;> decide
  rw [List.cons_append, List.singleton_append, unescape?.eq_4 letter rest fun _ same _ => read.1 same,
    read.2]
  cases unescape? rest <;> rfl

theorem restores_copied {c : Char} (plain : c ≠ '\\') : Restores [c] c := by
  intro rest
  rw [List.singleton_append, unescape?.eq_5 c rest (fun same _ => plain same)
    (fun _ same _ => plain same) (fun _ _ same _ => plain same)]
  cases unescape? rest <;> rfl

theorem restores_escapeChar (c : Char) : Restores (escapeChar c) c := by
  unfold escapeChar
  split
  · next letter named => exact restores_escapeLetter named
  · next plain =>
      split
      · exact restores_copied (by rintro rfl; contradiction)
      · exact restores_escapeCodePoint c

theorem restores_escapeFirst (c : Char) : Restores (escapeFirst c) c := by
  unfold escapeFirst
  split
  · exact restores_escapeCodePoint c
  · exact restores_escapeChar c

theorem unescape?_flatMap {written : Char → Text} (restores : ∀ c, Restores (written c) c)
    (text : Text) : unescape? (text.flatMap written) = some text := by
  induction text with
  | nil => rw [List.flatMap_nil, unescape?]
  | cons c rest ih => rw [List.flatMap_cons, restores, ih, Option.map_some]

theorem unescape?_escape (text : Text) : unescape? text.escape = some text := by
  cases text with
  | nil => rw [escape, unescape?]
  | cons c rest =>
      rw [escape, restores_escapeFirst, unescape?_flatMap restores_escapeChar, Option.map_some]

end Bcpl.Text
