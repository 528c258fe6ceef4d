import ScenarioTree.Text.CodePoint
import ScenarioTree.Text.Newline
import ScenarioTree.Text.Quoted
import ScenarioTree.Number.Literal
import ScenarioTree.Number.Shortest
import ScenarioTree.Xml.Lexeme
import ScenarioTree.Xml.Query
import ScenarioTree.Xml.Writer
import ScenarioTree.Xml.Declared
import ScenarioTree.Xml.Content
import ScenarioTree.Xml.Reader
import ScenarioTree.Data.Equality
import ScenarioTree.Data.Printer
import ScenarioTree.Node.Equality
import ScenarioTree.Node.View
import ScenarioTree.Problem
import ScenarioTree.Document
import ScenarioTree.Build.Session
import ScenarioTree.Build.Attempt
import ScenarioTree.Yaml.Scalar
import ScenarioTree.Yaml.Layout
import ScenarioTree.Yaml.Meaning
import ScenarioTree.Main
import ScenarioTree.Proofs.Blank
import ScenarioTree.Proofs.Place
import ScenarioTree.Proofs.Plan
import ScenarioTree.Proofs.Rule
import ScenarioTree.Proofs.Session
import ScenarioTree.Proofs.Site
import ScenarioTree.Proofs.Outcome
import ScenarioTree.Proofs.Outermost
import ScenarioTree.Proofs.Gap
import ScenarioTree.Proofs.Record
import ScenarioTree.Proofs.Accounting
import ScenarioTree.Proofs.Containment
import ScenarioTree.Proofs.Rounding
import ScenarioTree.Proofs.Numeral
import ScenarioTree.Proofs.Shape
import ScenarioTree.Proofs.Image
import ScenarioTree.Proofs.Sequence
import ScenarioTree.Proofs.Attempt
import ScenarioTree.Proofs.Assembly
import ScenarioTree.Proofs.Hole
import ScenarioTree.Proofs.Agreement
import ScenarioTree.Proofs.Name
import ScenarioTree.Proofs.Token
import ScenarioTree.Proofs.Declared
import ScenarioTree.Proofs.WellFormed
import ScenarioTree.Proofs.Prefix
import ScenarioTree.Proofs.Quoted
import ScenarioTree.Proofs.Markup
import ScenarioTree.Proofs.Tagged
import ScenarioTree.Proofs.Opened
import ScenarioTree.Proofs.Newline
import ScenarioTree.Proofs.Reread
import ScenarioTree.Proofs.Misnamed
import ScenarioTree.Proofs.RoundTrip
import ScenarioTree.Proofs.Alike
import ScenarioTree.Proofs.Layout
import ScenarioTree.Proofs.Note
import ScenarioTree.Proofs.Regrouping
import ScenarioTree.Proofs.Surroundings
import ScenarioTree.Proofs.Trace
import ScenarioTree.Proofs.LineEnd
import ScenarioTree.Proofs.Spelling
import ScenarioTree.Proofs.Overlong
import ScenarioTree.Proofs.Nesting
import ScenarioTree.Proofs.Outline
import ScenarioTree.Proofs.Truncation
import ScenarioTree.Proofs.Selection
import ScenarioTree.Proofs.Validation
import ScenarioTree.Proofs.Reporting
import ScenarioTree.Proofs.Summary
import ScenarioTree.Proofs.Piece
import ScenarioTree.Proofs.Draft
import ScenarioTree.Proofs.Ratio
import ScenarioTree.Proofs.Readback
import ScenarioTree.Proofs.Json
import ScenarioTree.Proofs.Dump
import ScenarioTree.Proofs.Nearest
import ScenarioTree.Proofs.Double
import ScenarioTree.Proofs.Grammar
import ScenarioTree.Proofs.Literal
import ScenarioTree.Proofs.Shortest
import ScenarioTree.Proofs.Native
import ScenarioTree.Proofs.Equality
