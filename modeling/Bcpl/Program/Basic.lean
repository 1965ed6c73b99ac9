import Bcpl.Text.Basic

/-!
Program trees: declarations of globals and constants, and definitions.
-/

namespace Bcpl

structure Entry where
  name : Text
  value : Int
deriving DecidableEq, Repr, Inhabited

inductive Decl where
  | global (entries : List Entry)
  | constant (entries : List Entry)
deriving DecidableEq, Repr, Inhabited

def Decl.entries : Decl → List Entry
  | .global entries => entries
  | .constant entries => entries

inductive Expr where
  | const (value : Int)
deriving DecidableEq, Repr, Inhabited

inductive Def where
  /-- Names bound to the values at the same places. -/
  | simple (names : List Text) (values : List Expr)
  /-- A name bound to a new vector. -/
  | vec (name : Text) (size : Expr)
  /-- Two definitions that hold at the same time. -/
  | both (left right : Def)
deriving DecidableEq, Repr, Inhabited

/-- The declarations and the definitions of a program, each in the order in which they were
written. -/
structure Program where
  decls : List Decl := []
  defs : List Def := []
deriving DecidableEq, Repr, Inhabited

namespace Program

def addDecl (program : Program) (decl : Decl) : Program :=
  { program with decls := program.decls ++ [decl] }

def addDef (program : Program) (definition : Def) : Program :=
  { program with defs := program.defs ++ [definition] }

end Program

end Bcpl
