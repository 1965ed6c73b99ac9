import Bcpl.CommandLine.Arguments
import Bcpl.CommandLine.LogRecord

/-!
The program: arguments, surroundings and the text of a file in, output and an exit code out. What
goes to the error output comes in the order in which it is written: log lines, the drawn message,
and last what is said about the failure.
-/

namespace Bcpl

structure Environment where
  /-- The log filter that was asked for. -/
  logFilter : Option Text := none
  /-- The kind of terminal. -/
  terminal : Option Text := none
  noColor : Option Text := none
deriving DecidableEq, Repr, Inhabited

/-- Whether messages are coloured. A terminal that is not `dumb` takes colour, unless it is not
wanted. -/
def ColorChoice.applies (choice : ColorChoice) (environment : Environment) : Bool :=
  match choice with
  | .always => true
  | .never => false
  | .auto =>
      environment.noColor.isNone && environment.terminal.any (· != "dumb".toList)

structure Completion where
  exitCode : Nat
  output : List UInt8
  errors : Text
deriving DecidableEq, Repr

def usage : Text := "Usage: bcplc [OPTIONS] <COMMAND>

Commands:
  tokens  Print the token stream, including inserted `;` and `do` tokens
  parse   Parse declarations and definitions and print the tree
  help    Print this message

Options:
  -s, --source         Take the input as the text itself (behind a command)
  -v, --verbose...     Increase logging verbosity (-v for debug, -vv for trace)
      --color <COLOR>  When to colour messages: auto, always or never
  -h, --help           Print help
  -V, --version        Print version
".toList

def Refusal.complaint : Refusal → Text
  | .unknownCommand => "unrecognized command".toList
  | .missingInput => "no input was given".toList
  | .unneededValue => "a value was given to an option that takes none".toList
  | .invalidValue => "a colour is one of auto, always and never".toList
  | .repeatedOption => "an option was given twice".toList
  | .unknownArgument => "unexpected argument".toList
  | .help | .version | .noArguments | .missingCommand => "no command was given".toList

def Completion.ofRefusal : Refusal → Completion
  | .help => ⟨0, usage.bytes, []⟩
  | .version => ⟨0, Text.bytes "bcplc 0.1.0\n".toList, []⟩
  | refusal =>
      ⟨refusal.exitCode, [],
        "error: ".toList ++ refusal.complaint ++ "\n\n".toList ++ usage⟩

namespace Invocation

def load (invocation : Invocation) (read : Text → Except Failure Text) :
    List Notice × Except Failure Source :=
  if invocation.inline then ([], .ok (.inline "<unnamed>".toList invocation.input))
  else ([.reading invocation.input], (read invocation.input).map (.ofFile invocation.input))

/-- Everything a session has reported, drawn. Nothing is drawn if one message cannot be. -/
def drawReported (session : Session) (color : Bool) : Except Fault Text :=
  (session.reported.mapM (session.draw · {} color)).map List.flatten

/-- The exit code of a program that could not draw a message or cut a filter into its parts. -/
def faultCode : Nat := 101

def runFiltered (invocation : Invocation) (filter : LogFilter) (environment : Environment)
    (read : Text → Except Failure Text) : Completion :=
  let log (notices : List Notice) : Text := filter.lines (notices.map Notice.record)
  match invocation.load read with
  | (loading, .error failure) => ⟨1, [], log loading ++ failure.message ++ "\n".toList⟩
  | (loading, .ok source) =>
      let (outcome, session) := Session.perform {} invocation.command source none
      let logged := log (loading ++ outcome.notices)
      match drawReported session (invocation.color.applies environment), outcome.failure with
      | .error _, _ => ⟨faultCode, outcome.written, logged⟩
      | .ok drawn, none => ⟨0, outcome.written, logged ++ drawn⟩
      | .ok drawn, some failure =>
          ⟨1, outcome.written, logged ++ drawn ++ failure.message ++ "\n".toList⟩

def run (invocation : Invocation) (environment : Environment) (read : Text → Except Failure Text) :
    Completion :=
  match LogFilter.select environment.logFilter invocation.verbosity with
  | .ok filter => invocation.runFiltered filter environment read
  | .error _ => ⟨faultCode, [], []⟩

end Invocation

def runProgram (arguments : List Text) (environment : Environment)
    (read : Text → Except Failure Text) : Completion :=
  match Invocation.ofArguments arguments with
  | .ok invocation => invocation.run environment read
  | .error refusal => .ofRefusal refusal

end Bcpl
