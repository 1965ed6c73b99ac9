import Bcpl.Diagnostic.Config
import Bcpl.Source.Basic
import Bcpl.Text.Measure

/-!
The rows of a drawn message. Under a header, the regions of each text are drawn in groups: a
location, the lines around the regions, and an underline below each line that a region starts on.
Regions whose windows of lines meet are drawn in one group.
-/

namespace Bcpl

structure Underline where
  kind : SnippetKind
  indent : Nat
  length : Nat
  /-- Whether the region goes on behind its first line. -/
  continues : Bool
  label : Text
deriving DecidableEq, Repr, Inhabited

inductive Row where
  | header (severity : Severity) (message : Option Text)
  | location (name : Text) (path : Option Text) (line column : Nat)
  /-- A line of a text. Its number is written in a field of `width` columns. -/
  | source (width number : Nat) (text : Text)
  | underline (width : Nat) (mark : Underline)
  | blank
deriving DecidableEq, Repr, Inhabited

def maxLineNumber : Nat := Nat.pow 2 64 - 1

/-- Fields are padded to widths of 16 bits. -/
def maxIndent : Nat := Nat.pow 2 16 - 1

def expandTabs (text : Text) : Text :=
  text.flatMap fun c => if c = '\t' then List.replicate 4 ' ' else [c]

def columns (text : Text) : Nat :=
  Text.width text + 4 * text.count '\t'

structure Placed where
  snippet : Snippet
  line : Nat
deriving DecidableEq, Repr, Inhabited

/-- Snippets drawn together, and the lines from the first up to one that is left out. -/
structure Group where
  placed : List Placed
  lines : Span
deriving DecidableEq, Repr, Inhabited

namespace Placed

def place? (table : LineTable) (snippet : Snippet) : Option Placed :=
  (table.index? snippet.span.start).map (⟨snippet, ·⟩)

/-- Snippets are drawn in the order of their lines, and on one line in that of their starts. -/
def precedes (first second : Placed) : Bool :=
  first.line < second.line
    || first.line == second.line && first.snippet.span.start ≤ second.snippet.span.start

def window (context : Nat) (placed : Placed) : Except Fault Span :=
  if placed.line + context + 1 ≤ maxLineNumber then
    .ok ⟨placed.line - context, placed.line + context + 1⟩
  else .error .lineOverflow

/-- Whether the last byte of a snippet is on a later line than its first one. -/
def continues (table : LineTable) (placed : Placed) : Except Fault Bool :=
  if placed.snippet.span.isEmpty then .ok false
  else do
    let last ← Checked.subtract placed.snippet.span.stop 1
    return (table.index? last).any (placed.line < ·)

/-- The underline below the line a snippet starts on. What the snippet covers outside the line is
not marked. -/
def underline (table : LineTable) (line : Line) (placed : Placed) : Except Fault Underline := do
  let lineStop := line.start + Text.size line.shown
  let start ← Checked.clamp placed.snippet.span.start line.start lineStop
  let stop ← Checked.clamp placed.snippet.span.stop start lineStop
  let before ← Checked.slice table.text line.start start
  let marked ← Checked.slice table.text start stop
  let continues ← placed.continues table
  if columns before ≤ maxIndent then
    return {
      kind := placed.snippet.kind
      indent := columns before
      length := max 1 (columns marked)
      continues
      label := placed.snippet.label }
  else throw .wideIndent

end Placed

namespace Group

def ofPlaced (placed : Placed) (window : Span) : Group := ⟨[placed], window⟩

def add (group : Group) (placed : Placed) (window : Span) : Group where
  placed := group.placed ++ [placed]
  lines := ⟨group.lines.start, max group.lines.stop window.stop⟩

/-- Join snippets in the order of their lines to groups. A snippet is added to the last group if
no line is left out between them. -/
def join (group : Group) : List (Placed × Span) → List Group
  | [] => [group]
  | (placed, window) :: rest =>
      if window.start ≤ group.lines.stop then (group.add placed window).join rest
      else group :: (ofPlaced placed window).join rest

def ofWindows : List (Placed × Span) → List Group
  | [] => []
  | (placed, window) :: rest => (ofPlaced placed window).join rest

def stop (group : Group) (table : LineTable) : Nat := min group.lines.stop table.count

/-- The columns of the largest number of a line. -/
def numberWidth (group : Group) (table : LineTable) : Except Fault Nat := do
  let log ← Checked.logarithm (max (group.stop table) 1)
  return 1 + log

/-- A line with the underlines of the snippets that start on it. -/
def lineRows (group : Group) (table : LineTable) (width index : Nat) (line : Line) :
    Except Fault (List Row) := do
  let underlines ← (group.placed.filter (·.line == index)).mapM (·.underline table line)
  return .source width (index + 1) (expandTabs line.shown) :: underlines.map (.underline width)

/-- Some lines one after the other, up to the first that the text does not have. -/
def linesRows (group : Group) (table : LineTable) (width : Nat) : List Nat → Except Fault (List Row)
  | [] => .ok []
  | index :: rest => do
      match ← table.findLine index with
      | none => return []
      | some line =>
          let rows ← group.lineRows table width index line
          let others ← group.linesRows table width rest
          return rows ++ others

/-- The place of the first snippet. -/
def location (group : Group) (source : Source) (table : LineTable) : Except Fault Row := do
  let first ← Checked.item group.placed 0
  let position ← table.findPosition first.snippet.span.start
  let (line, column) := position.getD (1, 1)
  return .location source.name source.path line column

def rows (group : Group) (source : Source) (table : LineTable) : Except Fault (List Row) := do
  let width ← group.numberWidth table
  let location ← group.location source table
  let start := group.lines.start
  let lines ← group.linesRows table width (List.range' start (group.stop table - start))
  return location :: lines ++ [.blank]

end Group

/-- Whether a snippet can be drawn: its source is known, and it starts inside the text or at the
end of it. -/
def Snippet.isDrawable (snippet : Snippet) (sources : Nat → Option Source) : Bool :=
  (sources snippet.source).any fun source => snippet.span.start ≤ Text.size source.text

def Source.rows (source : Source) (config : Config) (snippets : List Snippet) :
    Except Fault (List Row) := do
  let table := source.lines
  let placed := (snippets.filterMap (Placed.place? table)).mergeSort Placed.precedes
  let windows ← placed.mapM (Placed.window config.context)
  let rows ← (Group.ofWindows (placed.zip windows)).mapM (·.rows source table)
  return rows.flatten

namespace Diagnostic

def drawable (diagnostic : Diagnostic) (sources : Nat → Option Source) : List Snippet :=
  diagnostic.snippets.filter (·.isDrawable sources)

/-- The rows of a message. The sources come in the order of their first snippets. -/
def rows (diagnostic : Diagnostic) (config : Config) (sources : Nat → Option Source) :
    Except Fault (List Row) := do
  let snippets := diagnostic.drawable sources
  let rows ← (snippets.map Snippet.source).eraseDups.mapM fun number =>
    match sources number with
    | none => .ok []
    | some source => source.rows config (snippets.filter (·.source == number))
  return .header diagnostic.severity diagnostic.message :: rows.flatten

end Diagnostic

end Bcpl
