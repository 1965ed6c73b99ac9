import Bcpl.Proofs.Lexing.Kinds
import Bcpl.Proofs.Session.Jobs
import Bcpl.Proofs.Text.Encoding
import Bcpl.Proofs.Text.Splitting
import Bcpl.Proofs.Text.Unescaping

/-!
The listing of the tokens of a text read back. Its lines are the tokens, one each and in order, and
each gives the kind and the text of its token (`Token.readListing?_line`), so that a listing tells
all there is to know of the tokens but where they stand (`Session.listing_readable`).
-/

namespace Bcpl

/-- A line of a listing read back: up to the first tab the name of a kind, and behind it a text with
its escapes undone. -/
def readListing? (line : Text) : Option (Text × Text) :=
  match line.dropWhile (· ≠ '\t') with
  | [] => none
  | _ :: escaped => (Text.unescape? escaped).map (line.takeWhile (· ≠ '\t'), ·)

namespace Token

/-- What is listed of a token, without the line feed behind it. -/
def line (token : Token) : Text := token.kind.label ++ '\t' :: token.text.escape

theorem listing_eq (token : Token) : token.listing = token.line ++ ['\n'] := by
  simp [listing, line]

theorem newline_notMem_line (token : Token) : '\n' ∉ token.line := by
  intro inside
  rcases List.mem_append.mp inside with label | behind
  · exact absurd (Kind.isAlpha_of_mem_label label) (by decide)
  · have escaped := (List.mem_cons.mp behind).resolve_left (by decide)
    exact Text.newline_notMem_escape token.text escaped

theorem readListing?_line (token : Token) :
    readListing? token.line = some (token.kind.label, token.text) := by
  have label : ∀ c ∈ token.kind.label, decide (c ≠ '\t') = true := by
    intro c member
    have letter := Kind.isAlpha_of_mem_label member
    rw [decide_eq_true_eq]
    rintro rfl
    contradiction
  rw [readListing?, line, List.dropWhile_append_of_pos label, List.takeWhile_append_of_pos label]
  simp [Text.unescape?_escape]

end Token

namespace Session

/-- The lines of a listing. -/
def listing (text : Text) : List Text := (lex text).map Token.line

theorem written_tokens (session : Session) (source : Source) :
    (session.perform .tokens source none).1.written =
      Text.bytes ((listing source.text).flatMap (· ++ ['\n'])) := by
  rw [perform, listTokens, Outcome.ofOutput, Output.write_none]
  simp only [listing, Text.bytes, List.flatMap_map, List.flatMap_assoc, Token.listing_eq]

theorem splitOn_listing (text : Text) :
    Text.splitOn '\n' ((listing text).flatMap (· ++ ['\n'])) = listing text ++ [[]] := by
  refine Text.splitOn_terminated fun line member => ?_
  obtain ⟨token, _, rfl⟩ := List.mem_map.mp member
  exact token.newline_notMem_line

theorem map_readListing? (text : Text) :
    (listing text).map readListing? =
      (lex text).map fun token => some (token.kind.label, token.text) := by
  rw [listing, List.map_map]
  exact List.map_congr_left fun token _ => token.readListing?_line

/-- A listing of tokens can be read back. Parted at the line feeds it has one line for each token, in
order, each of them ended; a line has the name of the kind in front of its first tab, and behind it,
with the escapes undone, the very text of the token. So texts with the same listing have the same
kinds and texts of tokens. -/
theorem listing_readable (session : Session) (source : Source) :
    let written := (session.perform .tokens source none).1.written
    (∃ listing lines, Text.bytes listing = written ∧
      Text.splitOn '\n' listing = lines ++ [[]] ∧
      lines.map readListing? =
        (lex source.text).map fun token => some (token.kind.label, token.text)) ∧
    ∀ other : Source, (session.perform .tokens other none).1.written = written →
      (lex other.text).map Token.toLexeme = (lex source.text).map Token.toLexeme := by
  intro written
  refine ⟨⟨_, listing source.text, (session.written_tokens source).symm,
    splitOn_listing source.text, map_readListing? source.text⟩, fun other same => ?_⟩
  have texts := Text.bytes_injective
    ((session.written_tokens other).symm.trans (same.trans (session.written_tokens source)))
  have lines : listing other.text = listing source.text := by
    have parted := congrArg (Text.splitOn '\n') texts
    rw [splitOn_listing, splitOn_listing] at parted
    exact List.append_cancel_right parted
  have read (text : Text) : (listing text).map readListing? =
      ((lex text).map Token.toLexeme).map fun lexeme => some (lexeme.kind.label, lexeme.text) := by
    rw [map_readListing?, List.map_map]
    rfl
  have told : Function.Injective fun lexeme : Lexeme =>
      some (lexeme.kind.label, lexeme.text) := by
    intro first second equal
    obtain ⟨kinds, texts⟩ := Prod.mk.inj (Option.some.inj equal)
    exact congr (congrArg Lexeme.mk (Kind.label_injective kinds)) texts
  apply List.map_injective_iff.mpr told
  rw [← read, ← read, lines]

/-- A string constant over two lines, with a tab in it, is one line of the listing. -/
example :
    let listed := Session.listing "\"a\n\tb\"".toList
    listed = ["StringConst\t\\\"a\\n\\tb\\\"".toList, "Eof\t".toList] := by
  decide +kernel

end Session

end Bcpl
