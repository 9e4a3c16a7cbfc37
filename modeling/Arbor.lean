import Arbor.Text.Basic
import Arbor.Text.Alphanumeric
import Arbor.Text.Identifier
import Arbor.Text.Lowercase
import Arbor.Text.Quoted
import Arbor.Tree.Measure
import Arbor.Tree.Entries
import Arbor.Tree.Equality
import Arbor.Graph.Drawing
import Arbor.Outline
import Arbor.Json.Writer
import Arbor.Json.Reader
import Arbor.Sexpr.Reader
import Arbor.Source.Syntax.Basic
import Arbor.Source.Syntax.Tree
import Arbor.Source.Lexical.Tokens
import Arbor.Source.File
import Arbor.Rendering
import Arbor.Settings.File
import Arbor.Command.World
import Arbor.Main
import Arbor.Proofs.Sexpr.Lexing
import Arbor.Proofs.Sexpr.Grammar
import Arbor.Proofs.Sexpr.Spelling
import Arbor.Proofs.Graph.Descent
import Arbor.Proofs.Graph.Label
import Arbor.Proofs.Graph.Lines
import Arbor.Proofs.Tree.Position
import Arbor.Proofs.Graph.Visits
import Arbor.Proofs.Graph.Likeness
import Arbor.Proofs.Graph.Faithful
import Arbor.Proofs.Text.Hex
import Arbor.Proofs.Json.Text
import Arbor.Proofs.Json.Layout
import Arbor.Proofs.Json.Number
import Arbor.Proofs.Json.Value
import Arbor.Proofs.Json.Grammar
import Arbor.Proofs.Json.Awaits
import Arbor.Proofs.Json.Machine
import Arbor.Proofs.Json.Acceptance
import Arbor.Proofs.Text.Lossy
import Arbor.Proofs.Sink
import Arbor.Proofs.Json.Written
import Arbor.Proofs.Json.RoundTrip
import Arbor.Proofs.Rendering
import Arbor.Proofs.Command.Files
import Arbor.Proofs.Command.Outcome
import Arbor.Proofs.Graph.Levels
import Arbor.Proofs.Outline
import Arbor.Proofs.Sexpr.Words
import Arbor.Proofs.Text.Position
import Arbor.Proofs.Sexpr.Culprit
import Arbor.Proofs.Sexpr.Continuation
import Arbor.Proofs.Source.Kinds
import Arbor.Proofs.Source.Parentheses
import Arbor.Proofs.Source.Use
import Arbor.Proofs.Reading
import Arbor.Proofs.Source.Operands
import Arbor.Proofs.Settings.Document
import Arbor.Proofs.Settings.Precedence
import Arbor.Proofs.Tree.Measure
import Arbor.Proofs.Text.Lowercase
import Arbor.Proofs.Location
import Arbor.Proofs.Format
import Arbor.Proofs.Command.Spelling
import Arbor.Proofs.Sexpr.Progress
