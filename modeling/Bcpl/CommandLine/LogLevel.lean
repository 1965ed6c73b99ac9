import Bcpl.Text.Basic

/-!
How urgent a log line is.
-/

namespace Bcpl

inductive LogLevel where
  | error
  | warn
  | info
  | debug
  | trace
deriving DecidableEq, Repr, Inhabited

namespace LogLevel

def all : List LogLevel := [.error, .warn, .info, .debug, .trace]

def name : LogLevel → Text
  | .error => "ERROR".toList
  | .warn => "WARN".toList
  | .info => "INFO".toList
  | .debug => "DEBUG".toList
  | .trace => "TRACE".toList

/-- How many levels a filter that lets a level through lets through. -/
def rank (level : LogLevel) : Nat := all.idxOf level + 1

/-- The number of levels that a decimal number lets through: the number itself, if there are as many
levels. A plus sign and leading zeros do not count. -/
def limitOfNumber? (text : Text) : Option Nat :=
  let digits := if text.head? = some '+' then text.drop 1 else text
  let number := Text.ofDecimal digits
  if !digits.isEmpty && digits.all Char.isDigit && number ≤ all.length then some number else none

/-- The number of levels that the name of a level lets through, or a number. Names are read in
either case. -/
def limit? (text : Text) : Option Nat :=
  let upper := text.map Char.toUpper
  if upper = "OFF".toList then some 0
  else
    match all.find? fun level => level.name == upper with
    | some level => some level.rank
    | none => limitOfNumber? text

end LogLevel

end Bcpl
