import Bcpl.Diagnostic.Basic

/-!
How messages look: the marks they are drawn with, the lines shown around a region, and the styles
of their parts.
-/

namespace Bcpl

/-- The eight colours that every terminal has. -/
inductive Hue where
  | black | red | green | yellow | blue | magenta | cyan | white
deriving DecidableEq, Repr, Inhabited

inductive Color where
  | hue (name : Hue)
  /-- One of a table of 256 colours. -/
  | indexed (index : UInt8)
  | rgb (red green blue : UInt8)
deriving DecidableEq, Repr, Inhabited

structure Style where
  bold : Bool := false
  dimmed : Bool := false
  italic : Bool := false
  underlined : Bool := false
  struck : Bool := false
  color : Option Color := none
  background : Option Color := none
  /-- Whether the eight colours are bright. -/
  intense : Bool := false
  /-- Whether what was set before is undone first. -/
  fresh : Bool := true
deriving DecidableEq, Repr, Inhabited

structure Config where
  /-- The lines shown above and below a region. -/
  context : Nat := 1
  gutter : Text := "│".toList
  underline : Text := "^".toList
  /-- What stands between an underline and its label. -/
  underlineAfter : Text := " ".toList
  /-- What follows the underline of a region that goes on behind its first line. -/
  continuation : Text := "...".toList
  errorStyle : Style := { bold := true, color := some (.hue .red) }
  warningStyle : Style := { bold := true, color := some (.hue .yellow) }
  emphasis : Style := { bold := true }
  subtle : Style := { dimmed := true, italic := true }
deriving DecidableEq, Repr, Inhabited

namespace Config

def severityStyle (config : Config) : Severity → Style
  | .warning => config.warningStyle
  | .error => config.errorStyle

/-- Primary regions take the style of the message, secondary ones are only emphasised. -/
def snippetStyle (config : Config) (severity : Severity) : SnippetKind → Style
  | .primary => config.severityStyle severity
  | .secondary => config.emphasis

end Config

end Bcpl
