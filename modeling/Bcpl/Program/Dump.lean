import Bcpl.Program.Basic
import Bcpl.Text.Escape

/-!
Program trees written out. A dump names every part of a tree and can be laid out on one line or on
many, where each level is indented by four more spaces.
-/

namespace Bcpl

/-- A tree written out in both layouts. The layout on many lines is given for every depth at which
the tree may stand; its first line is not indented. -/
structure Dump where
  compact : Text
  expanded : Nat → Text

namespace Dump

def atom (text : Text) : Dump := ⟨text, fun _ => text⟩

def row (parts : List Dump) : Text := ", ".toList.intercalate (parts.map compact)

def lines (parts : List Dump) (depth : Nat) : Text :=
  parts.flatMap fun part =>
    List.replicate (4 * depth) ' ' ++ part.expanded depth ++ ",\n".toList

def enclose (opening : Text) (parts : List Dump) (closing : Text) (depth : Nat) : Text :=
  opening ++ "\n".toList ++ lines parts (depth + 1) ++ List.replicate (4 * depth) ' ' ++ closing

def labelled (label : Text) (part : Dump) : Dump where
  compact := label ++ ": ".toList ++ part.compact
  expanded depth := label ++ ": ".toList ++ part.expanded depth

def record (name : Text) (parts : List Dump) : Dump where
  compact := name ++ " \x7b ".toList ++ row parts ++ " \x7d".toList
  expanded := enclose (name ++ " \x7b".toList) parts "\x7d".toList

def wrapped (name : Text) (part : Dump) : Dump where
  compact := name ++ "(".toList ++ part.compact ++ ")".toList
  expanded := enclose (name ++ "(".toList) [part] ")".toList

/-- A list of parts. Without parts it stays on one line. -/
def sequence (parts : List Dump) : Dump where
  compact := "[".toList ++ row parts ++ "]".toList
  expanded depth :=
    if parts.isEmpty then "[]".toList else enclose "[".toList parts "]".toList depth

def text (content : Text) : Dump := atom content.quoted

def int : Int → Dump
  | .ofNat n => atom (Text.decimal n)
  | .negSucc n => atom ('-' :: Text.decimal (n + 1))

end Dump

open Dump

def Entry.dump (entry : Entry) : Dump :=
  record "VarDecl".toList
    [labelled "name".toList (text entry.name), labelled "value".toList (int entry.value)]

def Decl.dump : Decl → Dump
  | .global entries =>
      wrapped "Global".toList
        (record "GlobalDecl".toList [labelled "items".toList (sequence (entries.map Entry.dump))])
  | .constant entries =>
      wrapped "Constant".toList
        (record "ConstantDecl".toList [labelled "items".toList (sequence (entries.map Entry.dump))])

def Expr.dump : Expr → Dump
  | .const value =>
      wrapped "Const".toList (record "ConstExpr".toList [labelled "value".toList (int value)])

def nameDump (name : Text) : Dump :=
  record "Name".toList [labelled "value".toList (text name)]

def Def.dump : Def → Dump
  | .simple names values =>
      wrapped "Simple".toList (record "SimpleDef".toList [
        labelled "names".toList
          (record "NameList".toList [labelled "names".toList (sequence (names.map nameDump))]),
        labelled "exprs".toList
          (record "ExprList".toList [labelled "exprs".toList (sequence (values.map Expr.dump))])])
  | .vec name size =>
      wrapped "Vec".toList (record "VecDef".toList
        [labelled "name".toList (text name), labelled "size".toList size.dump])
  | .both left right =>
      wrapped "And".toList (record "AndDef".toList
        [labelled "left".toList left.dump, labelled "right".toList right.dump])

def Program.dump (program : Program) : Dump :=
  record "Program".toList
    [labelled "decls".toList (sequence (program.decls.map Decl.dump)),
      labelled "defs".toList (sequence (program.defs.map Def.dump))]

end Bcpl
