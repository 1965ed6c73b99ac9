import Bcpl.Failure
import Bcpl.Output
import Bcpl.Parser.Basic
import Bcpl.Parser.Diagnosis
import Bcpl.Program.Dump
import Bcpl.Session

/-!
The two commands of the compiler: list the tokens of a text, and print the program in it. Only a
text with a syntax error leaves a trace in the session.
-/

namespace Bcpl

inductive Command where
  | tokens
  | parse
deriving DecidableEq, Repr, Inhabited

inductive Notice where
  | reading (path : Text)
  | lexing (name : Text)
  | parsing (name : Text)
  | event (event : Event)
  | parsed (decls defs : Nat)
deriving DecidableEq, Repr

structure Outcome where
  failure : Option Failure
  written : List UInt8
  notices : List Notice
deriving DecidableEq, Repr

namespace Outcome

def ofOutput (output : Output) (notices : List Notice) : Outcome where
  failure := if output.complete then none else some .outputFull
  written := output.written
  notices := notices

end Outcome

def Token.listing (token : Token) : Text :=
  token.kind.label ++ "\t".toList ++ token.text.escape ++ "\n".toList

/-- The tokens among some that were put in front of others. They alone are empty, for the
end-of-file token is the last one. -/
def insertions (tokens : List Token) : List Event :=
  (tokens.zip tokens.tail).filterMap fun (token, before) =>
    if token.span.isEmpty then some (.inserted token before) else none

namespace Session

def listTokens (session : Session) (source : Source) (room : Option Nat) : Outcome × Session :=
  let tokens := lex source.text
  (.ofOutput (.write room (tokens.map Token.listing))
    (.lexing source.name :: (insertions tokens).map .event), session)

def printProgram (session : Session) (source : Source) (room : Option Nat) : Outcome × Session :=
  let report := parseReport source.text
  let notices := .parsing source.name :: report.events.map .event
  match report.result with
  | .ok program =>
      (.ofOutput (.write room [program.dump.expanded 0, "\n".toList])
        (notices ++ [.parsed program.decls.length program.defs.length]), session)
  | .error error =>
      let (number, session) := session.addSource source
      (⟨some .errorsReported, [], notices⟩, (session.report (error.diagnostic number)).2)

def perform (session : Session) (command : Command) (source : Source) (room : Option Nat) :
    Outcome × Session :=
  match command with
  | .tokens => session.listTokens source room
  | .parse => session.printProgram source room

end Session

end Bcpl
