import Bcpl.CommandLine.LogLevel
import Bcpl.CommandLine.Pattern
import Bcpl.Text.Blank
import Bcpl.Text.Numeral

/-!
Directives of a log filter. A directive lets levels through for some lines. It is written as
`target[span{field}]=level`, where every part may be left out.
-/

namespace Bcpl

inductive FilterError where
  | malformed
  /-- A part starts or stops inside a character. -/
  | splitCharacter
deriving DecidableEq, Repr, Inhabited

structure FieldTest where
  name : Text
  hasValue : Bool
deriving DecidableEq, Repr, Inhabited

/-- A test is the name of a field, or a name and a value with `=` between them. -/
def FieldTest.ofText (text : Text) : Except FilterError FieldTest :=
  match text.splitOn '=' with
  | name :: value :: _ =>
      if Text.isNumeral value || Pattern.isPattern value then .ok ⟨name, true⟩
      else .error .malformed
  | _ => if text.isEmpty then .error .malformed else .ok ⟨text, false⟩

structure Directive where
  /-- The text that targets start with. -/
  target : Option Text := none
  /-- The span that lines lie in. -/
  span : Option Text := none
  field : Option FieldTest := none
  /-- How many levels are let through. -/
  limit : Nat
deriving DecidableEq, Repr, Inhabited

namespace Directive

def isTargetStart (c : Char) : Bool :=
  c == '-' || c == ':' || c == '_' || Text.isAlphanumeric c

/-- A part of a directive. Its place is counted in the directive without the white space around it,
but it is cut from the whole. -/
def cut (text : Text) (start stop : Nat) : Except FilterError Text :=
  match text.slice? start stop with
  | some part => .ok part
  | none => .error .splitCharacter

/-- The level at the end of a directive. An empty one lets everything through. -/
def readLevel (text : Text) (start : Nat) : Except FilterError Nat := do
  let name ← cut text start (Text.size text)
  if name.isEmpty then return LogLevel.all.length
  else
    match LogLevel.limit? name with
    | some limit => return limit
    | none => .error .malformed

/-- What is behind the brackets: nothing, which lets everything through, or `=` and a level. -/
def readLimit (text : Text) (start : Nat) (rest : Text) : Except FilterError Nat :=
  match rest with
  | [] => .ok LogLevel.all.length
  | '=' :: _ => readLevel text (start + 1)
  | _ => .error .malformed

def readField (text : Text) (target span : Option Text) (start : Nat) (rest : Text) :
    Except FilterError Directive := do
  let inner := rest.takeWhile (· != '}')
  let stop := start + Text.size inner
  match rest.drop inner.length with
  | [] => .error .malformed
  | _ :: rest =>
      let field ← FieldTest.ofText (← cut text start stop)
      match rest with
      | ']' :: rest => return { target, span, field, limit := ← readLimit text (stop + 2) rest }
      | _ => .error .malformed

/-- What is inside brackets and behind them. Without a field, the span is there even if its name is
empty. -/
def readSpan (text : Text) (target : Option Text) (start : Nat) (rest : Text) :
    Except FilterError Directive := do
  let inner := rest.takeWhile fun c => c != ']' && c != '{'
  let stop := start + Text.size inner
  match rest.drop inner.length with
  | [] => .error .malformed
  | closing :: rest =>
      let name ← cut text start stop
      if closing = ']' then
        return { target, span := name, limit := ← readLimit text (stop + 1) rest }
      else readField text target (if name.isEmpty then none else some name) (stop + 1) rest

/-- A directive without marks is a level, or else a target that everything is let through for. -/
def ofWord (text : Text) : Directive :=
  match LogLevel.limit? text with
  | some limit => { limit }
  | none => { target := text, limit := LogLevel.all.length }

def ofText (text : Text) : Except FilterError Directive :=
  let trimmed := text.trim
  let target := trimmed.takeWhile fun c => c != '=' && c != '['
  let stop := Text.size target
  match trimmed, trimmed.drop target.length with
  | [], _ => .error .malformed
  | '[' :: rest, _ => readSpan text none 1 rest
  | first :: _, marked =>
      if !isTargetStart first then .error .malformed
      else
        match marked with
        | [] => .ok (ofWord text)
        | mark :: rest => do
            let target ← cut text 0 stop
            if mark = '[' then readSpan text target (stop + 1) rest
            else return { target, limit := ← readLevel text (stop + 1) }

/-- Whether a directive is about lines wherever they are written. The others are about spans and
about the values of fields in them. -/
def isForLines (directive : Directive) : Bool :=
  directive.span.isNone && !directive.field.any FieldTest.hasValue

def covers (directive : Directive) (target : Text) (fields : List Text) : Bool :=
  directive.target.all (·.isPrefixOf target)
    && directive.field.all fun test => fields.contains test.name

/-- The order of directives by how much they say: first by their targets, then by their fields. -/
def compareDetail (first second : Directive) : Ordering :=
  (compare (first.target.elim 0 (Text.size · + 1)) (second.target.elim 0 (Text.size · + 1))).then
    (compare (first.field.elim [] (0 :: ·.name.map Char.toNat))
      (second.field.elim [] (0 :: ·.name.map Char.toNat)))

end Directive

end Bcpl
