import Bcpl.Compiler

/-!
The arguments of the program. They are read from left to right, and the first one that does not
fit decides how they are refused. The value of a colour option that stands apart from its name is
judged when the next argument is understood, or after the last one; arguments behind the command
come before what is left to judge in front of it.
-/

namespace Bcpl

inductive ColorChoice where
  | auto
  | always
  | never
deriving DecidableEq, Repr, Inhabited

namespace ColorChoice

def all : List ColorChoice := [.auto, .always, .never]

def name : ColorChoice → Text
  | .auto => "auto".toList
  | .always => "always".toList
  | .never => "never".toList

def ofName? (name : Text) : Option ColorChoice :=
  all.find? fun choice => choice.name == name

end ColorChoice

/-- Why arguments do not lead to a command. The first two ask for something else. -/
inductive Refusal where
  | help
  | version
  | noArguments
  | missingCommand
  | unknownCommand
  | missingInput
  | unknownArgument
  /-- A value was given to an option that takes none. -/
  | unneededValue
  | invalidValue
  /-- An option that may be given once was given twice. -/
  | repeatedOption
deriving DecidableEq, Repr, Inhabited

namespace Refusal

def exitCode : Refusal → Nat
  | .help | .version => 0
  | _ => 2

end Refusal

inductive Argument where
  /-- Two hyphens alone: no option follows. -/
  | terminator
  | long (name : Text) (value : Option Text)
  | short (letters : Text)
  | word (text : Text)
deriving DecidableEq, Repr, Inhabited

def Argument.ofText : Text → Argument
  | ['-', '-'] => .terminator
  | '-' :: '-' :: option =>
      let name := option.takeWhile (· != '=')
      .long name (option.drop name.length).tail?
  | '-' :: c :: letters => .short (c :: letters)
  | text => .word text

inductive CommandWord where
  | command (command : Command)
  | help
deriving DecidableEq, Repr, Inhabited

def CommandWord.ofText? (text : Text) : Option CommandWord :=
  if text = "tokens".toList then some (.command .tokens)
  else if text = "parse".toList then some (.command .parse)
  else if text = "help".toList then some .help
  else none

inductive Level where
  | program
  | command
deriving DecidableEq, Repr, Inhabited

inductive Waiting where
  | nothing
  /-- The value of the option may be the next argument. -/
  | open
  | value (text : Text)
deriving DecidableEq, Repr, Inhabited

structure Options where
  verbosity : Nat := 0
  color : Option ColorChoice := none
  inline : Bool := false
  input : Option Text := none
  waiting : Waiting := .nothing
deriving DecidableEq, Repr, Inhabited

def maxVerbosity : Nat := 255

namespace Options

def setColor (options : Options) (value : Text) : Except Refusal Options :=
  if options.color.isSome then .error .repeatedOption
  else
    match ColorChoice.ofName? value with
    | some choice => .ok { options with color := some choice }
    | none => .error .invalidValue

def judge (options : Options) : Except Refusal Options :=
  match options.waiting with
  | .nothing => .ok options
  | .open => .error .invalidValue
  | .value text => setColor { options with waiting := .nothing } text

def flag (level : Level) (options : Options) (letter : Char) : Except Refusal Options :=
  match level, letter with
  | _, 'v' => do
      let options ← options.judge
      return { options with verbosity := min (options.verbosity + 1) maxVerbosity }
  | _, 'h' => do
      let _ ← options.judge
      .error .help
  | .program, 'V' => do
      let _ ← options.judge
      .error .version
  | .command, 's' => do
      let options ← options.judge
      if options.inline then .error .repeatedOption else return { options with inline := true }
  | _, _ => .error .unknownArgument

def letter? (level : Level) (name : Text) : Option Char :=
  if name = "verbose".toList then some 'v'
  else if name = "help".toList then some 'h'
  else if name = "version".toList ∧ level = .program then some 'V'
  else if name = "source".toList ∧ level = .command then some 's'
  else none

def long (level : Level) (options : Options) (name : Text) (value : Option Text) :
    Except Refusal Options :=
  if name = "color".toList then do
    let options ← options.judge
    match value with
    | some value => options.setColor value
    | none => return { options with waiting := .open }
  else
    match letter? level name, value with
    | none, _ => .error .unknownArgument
    | some _, some _ => .error .unneededValue
    | some letter, none => options.flag level letter

def short (level : Level) (options : Options) (letters : Text) : Except Refusal Options :=
  letters.foldlM (flag level) options

/-- Take the input of a command. There is one. -/
def setInput (options : Options) (text : Text) : Except Refusal Options :=
  if options.input.isSome then .error .unknownArgument
  else do
    let options ← options.judge
    return { options with input := some text }

/-- Read the arguments behind the command, which are all words behind a terminator. -/
def readCommand (options : Options) (terminated : Bool) : List Text → Except Refusal Options
  | [] => do
      let options ← options.judge
      if options.input.isNone then .error .missingInput else return options
  | argument :: rest =>
      match if terminated then .word argument else Argument.ofText argument with
      | .terminator => options.readCommand true rest
      | .long name value => do (← options.long .command name value).readCommand terminated rest
      | .short letters => do (← options.short .command letters).readCommand terminated rest
      | .word text =>
          if options.waiting = .open ∧ ¬ terminated then
            readCommand { options with waiting := .value text } terminated rest
          else do (← options.setInput text).readCommand terminated rest

end Options

structure Invocation where
  command : Command
  input : Text
  /-- Whether the input is the text itself, and not the path of a file. -/
  inline : Bool
  verbosity : Nat
  color : ColorChoice
deriving DecidableEq, Repr, Inhabited

namespace Invocation

def helpRefusal : List Text → Refusal
  | [] => .help
  | [word] => if (CommandWord.ofText? word).isSome then .help else .unknownCommand
  | _ => .unknownCommand

/-- What is given behind the command comes before what is given in front of it. -/
def ofOptions (command : Command) (front behind : Options) : Invocation where
  command := command
  input := behind.input.getD []
  inline := behind.inline
  verbosity := if behind.verbosity = 0 then front.verbosity else behind.verbosity
  color := (behind.color.or front.color).getD .auto

def read (options : Options) : List Text → Except Refusal Invocation
  | [] => do
      let options ← options.judge
      if options.verbosity = 0 ∧ options.color.isNone then .error .noArguments
      else .error .missingCommand
  | argument :: rest =>
      match Argument.ofText argument with
      | .terminator =>
          match rest with
          | [] => read options []
          | word :: _ =>
              if (CommandWord.ofText? word).isSome then .error .unknownArgument
              else .error .unknownCommand
      | .long name value => do read (← options.long .program name value) rest
      | .short letters => do read (← options.short .program letters) rest
      | .word text =>
          if options.waiting = .open then read { options with waiting := .value text } rest
          else
            match CommandWord.ofText? text with
            | none => .error .unknownCommand
            | some .help => .error (helpRefusal rest)
            | some (.command command) => do
                let behind ← Options.readCommand {} false rest
                let front ← options.judge
                return ofOptions command front behind

def ofArguments (arguments : List Text) : Except Refusal Invocation := read {} arguments

end Invocation

end Bcpl
