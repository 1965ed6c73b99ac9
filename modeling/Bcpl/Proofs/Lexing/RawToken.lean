import Bcpl.Proofs.Lexing.Blanks

/-!
The tokens that are written in a text, each with the blanks in front of it, and the rule that puts
a `;` or a `do` between them. The rule looks at one chunk after the other and remembers
only whether the chunk before could end a command.
-/

namespace Bcpl

/-- A lexeme with the blanks in front of it. -/
structure Chunk where
  gap : Text
  lexeme : Lexeme
deriving DecidableEq, Repr

namespace Chunk

def text (chunk : Chunk) : Text := chunk.gap ++ chunk.lexeme.text

/-- Whether a new line parts the lexeme from the one before. -/
def startsLine (chunk : Chunk) : Bool := chunk.gap.contains '\n'

/-- What belongs in front of the lexeme. It is `armed` if the lexeme before could end a command. -/
def inserted? (armed : Bool) (chunk : Chunk) : Option Kind :=
  if armed && chunk.startsLine && chunk.lexeme.kind.isSemicolonStart then some (.symbol .semicolon)
  else if armed && !chunk.startsLine && chunk.lexeme.kind.isDoStart then some (.keyword .do_)
  else none

/-- Whether the lexeme can end a command. On a new line behind the end of a command, a lexeme that
starts none cannot end one either. -/
def arms (armed : Bool) (chunk : Chunk) : Bool :=
  if armed && chunk.startsLine && !chunk.lexeme.kind.isSemicolonStart then false
  else chunk.lexeme.kind.isCommandEnd

end Chunk

structure RawToken where
  gap : Text
  token : Token
deriving DecidableEq, Repr

def RawToken.chunk (raw : RawToken) : Chunk := ⟨raw.gap, raw.token.toLexeme⟩

/-- The tokens written from a cursor on: blanks are passed over and a token is scanned, again and
again, up to the end-of-file token. -/
def rawTokens (cursor : Cursor) : List RawToken :=
  let gap := cursor.run Lexer.isBlank
  let step := Lexer.scan (cursor.advance gap.length)
  if step.1.kind = .eof then [⟨gap, step.1⟩] else ⟨gap, step.1⟩ :: rawTokens step.2
termination_by cursor.rest.length
decreasing_by
  refine Nat.lt_of_lt_of_le (Lexer.length_rest_scan_lt ‹_›) ?_
  rw [Cursor.length_rest_advance]
  exact Nat.sub_le _ _

def RawToken.front (armed : Bool) (raw : RawToken) : List Token :=
  ((raw.chunk.inserted? armed).map (Token.synthetic · raw.token.span.start)).toList

/-- Raw tokens with a `;` or a `do` in front of those that belong behind one. -/
def weave : Bool → List RawToken → List Token
  | _, [] => []
  | armed, raw :: rest => raw.front armed ++ raw.token :: weave (raw.chunk.arms armed) rest

end Bcpl
