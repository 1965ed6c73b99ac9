import Bcpl.Token.Basic

/-!
What can be wrong with a program, and where. A token that cannot be read at all is reported as
such, whatever was expected in its place.
-/

namespace Bcpl

inductive Expectation where
  /-- The start of a declaration or definition. -/
  | item
  | equalsOrColon
  | commaOrEquals
  | token (kind : Kind)
deriving DecidableEq, Repr, Inhabited

namespace Expectation

def kinds : Expectation → List Kind
  | .item => [.keyword .global, .keyword .manifest, .keyword .let_]
  | .equalsOrColon => [.symbol .eq, .symbol .colon]
  | .commaOrEquals => [.symbol .comma, .symbol .eq]
  | .token kind => [kind]

def description : Expectation → Text
  | .item => "a declaration or definition".toList
  | .equalsOrColon => "`=` or `:`".toList
  | .commaOrEquals => "`,` or `=`".toList
  | .token kind => kind.description

end Expectation

inductive Cause where
  /-- A character that starts no token. -/
  | lexical (text : Text)
  /-- A string constant without an end. -/
  | unterminatedString
  | expected (expectation : Expectation) (found : Lexeme)
  /-- More names than values, or fewer. -/
  | arityMismatch (names values : Nat)
  /-- A number that does not fit into a signed word of 64 bits. -/
  | numberTooLarge (digits : Text)
deriving DecidableEq, Repr, Inhabited

def Cause.message : Cause → Text
  | .lexical text => "unrecognized character `".toList ++ text ++ "`".toList
  | .unterminatedString => "unterminated string constant".toList
  | .expected expectation found =>
      "expected ".toList ++ expectation.description ++ ", found ".toList ++ found.description
  | .arityMismatch names values =>
      Text.decimal names ++ " name(s) defined but ".toList ++ Text.decimal values
        ++ " value(s) given".toList
  | .numberTooLarge digits => "number `".toList ++ digits ++ "` is too large".toList

structure SyntaxError where
  cause : Cause
  span : Span
deriving DecidableEq, Repr, Inhabited

def Token.refusal (token : Token) (expectation : Expectation) : SyntaxError where
  cause :=
    if token.kind = .illegal then
      if token.text.head? = some '"' then .unterminatedString else .lexical token.text
    else .expected expectation token.toLexeme
  span := token.span

end Bcpl
