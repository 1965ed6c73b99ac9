import Bcpl.Token.Kind
import Bcpl.Text.Escape

/-!
Lexemes: pieces of text with their kinds. `Lexeme.read` takes the longest lexeme from the front of
a text that does not start with a blank.
-/

namespace Bcpl

structure Lexeme where
  kind : Kind
  text : Text
deriving DecidableEq, Repr, Inhabited

/-- The reserved word a word spells, or else a name. Single letters are always names. -/
def Kind.ofWord (word : Text) : Kind :=
  if 1 < Text.size word then
    match Keyword.ofSpelling? word with
    | some reserved => .keyword reserved
    | none => .name
  else .name

namespace Lexeme

def word (first : Char) (rest : Text) : Lexeme :=
  let text := first :: rest.takeWhile Char.isAlphanum
  ⟨Kind.ofWord text, text⟩

def digits (first : Char) (rest : Text) : Lexeme :=
  ⟨.number, first :: rest.takeWhile Char.isDigit⟩

/-- What stands between a double quote and the next one. Without a next one the text up to its end
is illegal. -/
def quotation (rest : Text) : Lexeme :=
  match rest.dropWhile (· != '"') with
  | [] => ⟨.illegal, '"' :: rest⟩
  | _ :: _ => ⟨.stringConst, '"' :: rest.takeWhile (· != '"') ++ ['"']⟩

/-- The remark after two strokes, up to and with the end of the line. -/
def remark (rest : Text) : Lexeme :=
  ⟨.comment, '/' :: '/' :: rest.takeWhile (· != '\n') ++ (rest.dropWhile (· != '\n')).take 1⟩

/-- The kind of a mark, and how many characters behind its first one belong to it. A symbol of two
characters is tried before the one of its first character alone. -/
def markKind (first : Char) (rest : Text) : Kind × Nat :=
  match first with
  | '+' => (.symbol .plus, 0)
  | '-' => if rest.head? = some '>' then (.symbol .cond, 1) else (.symbol .minus, 0)
  | '*' => (.symbol .star, 0)
  | '/' => (.symbol .div, 0)
  | '=' => (.symbol .eq, 0)
  | '!' => if rest.head? = some '=' then (.symbol .ne, 1) else (.symbol .not, 0)
  | '<' =>
      if rest.head? = some '=' then (.symbol .le, 1)
      else if rest.head? = some '<' then (.symbol .lShift, 1)
      else (.symbol .ls, 0)
  | '>' =>
      if rest.head? = some '=' then (.symbol .ge, 1)
      else if rest.head? = some '>' then (.symbol .rShift, 1)
      else (.symbol .gr, 0)
  | '&' => (.symbol .logAnd, 0)
  | '|' => (.symbol .logOr, 0)
  | ':' => if rest.head? = some '=' then (.symbol .ass, 1) else (.symbol .colon, 0)
  | ',' => (.symbol .comma, 0)
  | ';' => (.symbol .semicolon, 0)
  | '$' =>
      if rest.head? = some '(' then (.symbol .sectBra, 1)
      else if rest.head? = some ')' then (.symbol .sectKet, 1)
      else (.illegal, 0)
  | '(' => (.symbol .rBra, 0)
  | ')' => (.symbol .rKet, 0)
  | '[' => (.symbol .sBra, 0)
  | ']' => (.symbol .sKet, 0)
  | _ => (.illegal, 0)

/-- A symbol, or else one illegal character. -/
def mark (first : Char) (rest : Text) : Lexeme :=
  let (kind, others) := markKind first rest
  ⟨kind, first :: rest.take others⟩

/-- The lexeme at the front of a text. At the end of the text it is empty. -/
def read : Text → Lexeme
  | [] => ⟨.eof, []⟩
  | '/' :: '/' :: rest => remark rest
  | first :: rest =>
      if first.isAlpha then word first rest
      else if first.isDigit then digits first rest
      else if first = '"' then quotation rest
      else mark first rest

theorem read_text_ne_nil {text : Text} (unfinished : text ≠ []) : (read text).text ≠ [] := by
  fun_cases read text with
  | case1 => contradiction
  | case2 rest => simp [remark]
  | case3 first rest => simp [word]
  | case4 first rest => simp [digits]
  | case5 first rest =>
      unfold quotation
      split <;> simp
  | case6 first rest => simp [mark]

def description (lexeme : Lexeme) : Text :=
  match lexeme.kind with
  | .eof | .symbol _ | .keyword _ => lexeme.kind.description
  | kind => kind.description ++ " `".toList ++ lexeme.text.escape ++ "`".toList

end Lexeme

end Bcpl
