import Bcpl.Parser.Position
import Bcpl.Parser.TokenSource

/-!
The parser reads a program token by token. Before a token is read, what it shows to be complete is
settled: a closed block becomes a declaration, and a definition that no comma or `and` continues
becomes part of the program. The events of a run are recorded in the order in which they happen,
up to the error if there is one.
-/

namespace Bcpl

inductive Event where
  /-- A token was put in front of another. -/
  | inserted (token before : Token)
  /-- A vector was given more than one name, and only the first is bound. -/
  | namesIgnored (name : Text) (ignored : Nat)
  | declaration (decl : Decl)
  | definition (definition : Def)
deriving DecidableEq, Repr

structure Report where
  events : List Event
  result : Except SyntaxError Program

def Report.after (events : List Event) (report : Report) : Report :=
  { report with events := events ++ report.events }

structure Parser where
  program : Program := {}
  position : Position := .item
deriving DecidableEq, Repr

namespace Parser

/-- A definition is complete, unless `and` joins another one to it. -/
def settleDef (program : Program) (definition : Def) (next : Kind) : List Event × Parser :=
  if next = .keyword .and then ([], ⟨program, .defEnd definition⟩)
  else ([.definition definition], ⟨program.addDef definition, .item⟩)

/-- Settle what a token of the kind `next` shows to be complete. -/
def settle (parser : Parser) (next : Kind) : Except SyntaxError (List Event × Parser) :=
  match parser.position with
  | .blockEnd decl => .ok ([.declaration decl], ⟨parser.program.addDecl decl, .item⟩)
  | .vectorSize binding =>
      if binding.others.isEmpty then .ok ([], parser)
      else .ok ([.namesIgnored binding.first.text binding.others.length], parser)
  | .valueEnd binding values last =>
      if next = .symbol .comma then .ok ([], parser)
      else if binding.names.length = values.length then
        .ok (settleDef parser.program
          (binding.join (.simple binding.names (values.map .const))) next)
      else
        .error ⟨.arityMismatch binding.names.length values.length, binding.first.span.join last⟩
  | .defEnd definition => .ok (settleDef parser.program definition next)
  | .oversized number => .error ⟨.numberTooLarge number.text, number.span⟩
  | _ => .ok ([], parser)

def read (parser : Parser) (token : Token) : Except SyntaxError Parser :=
  match parser.position.after? token with
  | some position => .ok { parser with position }
  | none => .error (token.refusal parser.position.expectation)

/-- End the program at an end-of-file token after all before it is settled. -/
def close (parser : Parser) (token : Token) : Except SyntaxError Program :=
  if parser.position = .item then .ok parser.program
  else .error (token.refusal parser.position.expectation)

def insertion (token : Token) : Option Token → List Event
  | some before => [.inserted token before]
  | none => []

/-- Read the tokens of a source up to the end of the file or the first error. Comments are passed
over. -/
def run {σ : Type} [TokenSource σ] (parser : Parser) (source : σ) : Report :=
  let step := TokenSource.next source
  let token := step.1
  let events := insertion token (TokenSource.pending step.2)
  if token.kind = .comment then (run parser step.2).after events
  else
    match parser.settle token.kind with
    | .error error => ⟨events, .error error⟩
    | .ok (settled, parser) =>
        if token.kind = .eof then ⟨events ++ settled, parser.close token⟩
        else
          match parser.read token with
          | .error error => ⟨events ++ settled, .error error⟩
          | .ok parser => (run parser step.2).after (events ++ settled)
termination_by TokenSource.size source
decreasing_by
  · have comment : (TokenSource.next source).1.kind = .comment := ‹_›
    exact TokenSource.size_next_lt source (by simp [comment])
  · exact TokenSource.size_next_lt source ‹_›

end Parser

def parseReport (text : Text) : Report := Parser.run {} (Lexer.ofText text)

def parse (text : Text) : Except SyntaxError Program := (parseReport text).result

end Bcpl
