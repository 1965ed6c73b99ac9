import Bcpl.Diagnostic.Row

/-!
Messages drawn as text. A row is a sequence of pieces of text and changes of style; without colour
the changes of style are left out, with colour they are written as terminal escapes.
-/

namespace Bcpl

inductive Piece where
  | text (content : Text)
  | style (look : Style)
  | reset
deriving DecidableEq, Repr, Inhabited

namespace Row

def gutterPieces (config : Config) (field : Text) : List Piece :=
  [.style config.subtle, .text (field ++ " ".toList ++ config.gutter ++ " ".toList), .reset]

def placeText (line column : Nat) : Text :=
  ":".toList ++ Text.decimal line ++ ":".toList ++ Text.decimal column

def locationText (name : Text) (path : Option Text) (line column : Nat) : Text :=
  let place := placeText line column
  "In ".toList ++ name ++ place
    ++ (match path with
      | some path => " (".toList ++ path ++ place ++ ")".toList
      | none => [])
    ++ "\n".toList

def underlineText (config : Config) (mark : Underline) : Text :=
  List.replicate mark.indent ' ' ++ (List.replicate mark.length config.underline).flatten
    ++ (if mark.continues then config.continuation else [])
    ++ config.underlineAfter ++ mark.label

def pieces (config : Config) (severity : Severity) : Row → List Piece
  | .header severity message =>
      [.style (config.severityStyle severity), .text (severity.name ++ ":".toList), .reset,
        .text ((match message with
          | some message => " ".toList ++ message
          | none => []) ++ "\n".toList)]
  | .location name path line column =>
      [.style config.subtle, .text (locationText name path line column), .reset]
  | .source width number text =>
      gutterPieces config (Text.alignRight width (Text.decimal number))
        ++ [.text (text ++ "\n".toList)]
  | .underline width mark =>
      gutterPieces config (Text.alignRight width [])
        ++ [.style (config.snippetStyle severity mark.kind), .text (underlineText config mark),
          .reset, .text "\n".toList]
  | .blank => [.text "\n".toList]

end Row

/-- A control sequence that sets how what follows is shown. -/
def terminalEscape (parameters : List Nat) : Text :=
  "\x1b[".toList ++ [';'].intercalate (parameters.map Text.decimal) ++ "m".toList

def Hue.code : Hue → Nat
  | .black => 0
  | .red => 1
  | .green => 2
  | .yellow => 3
  | .blue => 4
  | .magenta => 5
  | .cyan => 6
  | .white => 7

/-- The parameters of a colour. The `base` tells the colour of characters from that behind them. -/
def Color.parameters (base : Nat) (intense : Bool) : Color → List Nat
  | .hue name => if intense then [base + 8, 5, name.code + 8] else [base + name.code]
  | .indexed index => [base + 8, 5, index.toNat]
  | .rgb red green blue => [base + 8, 2, red.toNat, green.toNat, blue.toNat]

namespace Style

def parameters (style : Style) : List (List Nat) :=
  (if style.fresh then [[0]] else [])
    ++ (if style.bold then [[1]] else [])
    ++ (if style.dimmed then [[2]] else [])
    ++ (if style.italic then [[3]] else [])
    ++ (if style.underlined then [[4]] else [])
    ++ (if style.struck then [[9]] else [])
    ++ (style.color.map (Color.parameters 30 style.intense)).toList
    ++ (style.background.map (Color.parameters 40 style.intense)).toList

def escapes (style : Style) : Text := style.parameters.flatMap terminalEscape

end Style

namespace Piece

def plain : Piece → Text
  | .text content => content
  | .style _ | .reset => []

def colored : Piece → Text
  | .text content => content
  | .style look => look.escapes
  | .reset => terminalEscape [0]

end Piece

namespace Diagnostic

def pieces (diagnostic : Diagnostic) (config : Config) (sources : Nat → Option Source) :
    Except Fault (List Piece) :=
  (diagnostic.rows config sources).map fun rows =>
    rows.flatMap (Row.pieces config diagnostic.severity)

def draw (diagnostic : Diagnostic) (config : Config) (sources : Nat → Option Source)
    (color : Bool) : Except Fault Text :=
  (diagnostic.pieces config sources).map fun pieces =>
    pieces.flatMap (if color then Piece.colored else Piece.plain)

end Diagnostic

end Bcpl
