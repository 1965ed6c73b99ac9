import Bcpl.Main
import Bcpl.Proofs.Text.Slice
import Bcpl.Proofs.Lexing.Symbols
import Bcpl.Proofs.Lexing.Weaving
import Bcpl.Proofs.Lexing.LexemeEnd
import Bcpl.Proofs.Lexing.Layout
import Bcpl.Proofs.Lexing.Lossless
import Bcpl.Proofs.Lexing.SpelledOut
import Bcpl.Proofs.Grammar.Derivation
import Bcpl.Proofs.Grammar.TokenRun
import Bcpl.Proofs.Grammar.Soundness
import Bcpl.Proofs.Grammar.Completeness
import Bcpl.Proofs.Grammar.FirstError
import Bcpl.Proofs.Grammar.Outline
import Bcpl.Proofs.Grammar.ViablePrefix
import Bcpl.Proofs.Grammar.Neighbours
import Bcpl.Proofs.Lexing.Respacing
import Bcpl.Proofs.Grammar.Spacing
import Bcpl.Proofs.Diagnostic.Placing
import Bcpl.Proofs.Diagnostic.Windows
import Bcpl.Proofs.Diagnostic.Drawn
import Bcpl.Proofs.Diagnostic.Rows
import Bcpl.Proofs.Diagnostic.Messages
import Bcpl.Proofs.Diagnostic.Underlines
import Bcpl.Proofs.Diagnostic.SyntaxErrors
import Bcpl.Proofs.Diagnostic.WideErrors
import Bcpl.Proofs.Grammar.Concatenation
import Bcpl.Proofs.Text.Columns
import Bcpl.Proofs.Diagnostic.Alignment
import Bcpl.Proofs.Grammar.ErrorRegion
import Bcpl.Proofs.Grammar.Writing
import Bcpl.Proofs.Grammar.SettledErrors
import Bcpl.Proofs.Grammar.Relabelling
import Bcpl.Proofs.Lexing.LineEndings
import Bcpl.Proofs.Grammar.LineEndings
import Bcpl.Proofs.Diagnostic.Renumbering
import Bcpl.Proofs.Session.Jobs
import Bcpl.Proofs.Text.ControlSequences
import Bcpl.Proofs.Diagnostic.Decoration
import Bcpl.Proofs.Diagnostic.Reordering
import Bcpl.Proofs.Session.Requests
import Bcpl.Proofs.Lexing.Respelling
import Bcpl.Proofs.Lexing.Renaming
import Bcpl.Proofs.Grammar.Renaming
import Bcpl.Proofs.Lexing.Ending
import Bcpl.Proofs.Grammar.OnDemand
import Bcpl.Proofs.Grammar.Telling
import Bcpl.Proofs.Source.Lines
import Bcpl.Proofs.Lexing.Kinds
import Bcpl.Proofs.Session.Listing
import Bcpl.Proofs.Session.LimitedOutput
import Bcpl.Proofs.Diagnostic.Continuation
import Bcpl.Proofs.Diagnostic.Gutter
import Bcpl.Proofs.Text.Delimiting
import Bcpl.Proofs.Program.Dumps
import Bcpl.Proofs.Lexing.States
import Bcpl.Proofs.Text.Cursor
