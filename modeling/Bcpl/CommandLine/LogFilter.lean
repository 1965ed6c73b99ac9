import Bcpl.CommandLine.LogDirective

/-!
Which log lines are written. A filter is a list of directives; of those that are about a line the
one that says most counts.
-/

namespace Bcpl

structure LogFilter where
  directives : List Directive
deriving DecidableEq, Repr, Inhabited

namespace LogFilter

/-- A filter is written as directives between commas. Without any, only errors pass. -/
def ofText (text : Text) : Except FilterError LogFilter := do
  let directives ← ((text.splitOn ',').filter (!·.isEmpty)).mapM Directive.ofText
  return ⟨if directives.isEmpty then [{ limit := LogLevel.error.rank }] else directives⟩

/-- Of two directives about a line the one that says more counts, or else the later. -/
def choose (first : Option Directive) (second : Directive) : Option Directive :=
  match first with
  | none => some second
  | some first => if first.compareDetail second = .gt then some first else some second

def allows (filter : LogFilter) (level : LogLevel) (target : Text) (fields : List Text) : Bool :=
  let covering := filter.directives.filter fun directive =>
    directive.isForLines && directive.covers target fields
  match covering.foldl choose none with
  | none => false
  | some directive => level.rank ≤ directive.limit

def standardText (verbosity : Nat) : Text :=
  match verbosity with
  | 0 => "bcplc=info,bcpl_frontend=info".toList
  | 1 => "bcplc=debug,bcpl_frontend=debug".toList
  | _ => "bcplc=trace,bcpl_frontend=trace".toList

/-- The filter that was asked for. Without one, and if it is malformed, it is the one for a
verbosity. -/
def select (asked : Option Text) (verbosity : Nat) : Except FilterError LogFilter :=
  match asked with
  | none => ofText (standardText verbosity)
  | some text =>
      match ofText text with
      | .error .malformed => ofText (standardText verbosity)
      | result => result

end LogFilter

end Bcpl
