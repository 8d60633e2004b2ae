import GridDiagram.Attribute
import GridDiagram.Attribute.Parser
import GridDiagram.Attribute.ValueError
import GridDiagram.Cheatsheet
import GridDiagram.Cli
import GridDiagram.Cli.Arguments
import GridDiagram.Cli.Glob
import GridDiagram.Cli.Grammar
import GridDiagram.Cli.Host
import GridDiagram.Cli.Input
import GridDiagram.Cli.Path
import GridDiagram.Cli.Workspace
import GridDiagram.Color
import GridDiagram.Color.Name
import GridDiagram.Color.Parser
import GridDiagram.Compile
import GridDiagram.Compile.Json
import GridDiagram.DiagramError
import GridDiagram.Document
import GridDiagram.Drawing.Coordinate
import GridDiagram.Drawing.Figure
import GridDiagram.Drawing.Polygon
import GridDiagram.Drawing.Svg
import GridDiagram.Drawing.Transform
import GridDiagram.Element
import GridDiagram.Font
import GridDiagram.Json
import GridDiagram.Layout
import GridDiagram.Layout.Box
import GridDiagram.Layout.Error
import GridDiagram.Layout.Grid
import GridDiagram.Layout.Measure
import GridDiagram.Layout.Position
import GridDiagram.Layout.Stage
import GridDiagram.Main
import GridDiagram.Markup
import GridDiagram.Measurer
import GridDiagram.Number.Decimal
import GridDiagram.Number.Error
import GridDiagram.Number.Exact
import GridDiagram.Number.Numeral
import GridDiagram.Number.Rounding
import GridDiagram.Number.Shortest
import GridDiagram.Placement
import GridDiagram.Plane
import GridDiagram.Primitive
import GridDiagram.Properties
import GridDiagram.Report
import GridDiagram.Scalar
import GridDiagram.Selector
import GridDiagram.Source
import GridDiagram.StructuralError
import GridDiagram.StyleSheet
import GridDiagram.Template
import GridDiagram.Text.Blank
import GridDiagram.Text.Case
import GridDiagram.Text.Digit
import GridDiagram.Text.Position
import GridDiagram.Text.Printable
import GridDiagram.Text.Quoted
import GridDiagram.Tree
import GridDiagram.Trigonometry
import GridDiagram.Vocabulary
import GridDiagram.Xml
import GridDiagram.Xml.Character
import GridDiagram.Xml.Doctype
import GridDiagram.Xml.Entity
import GridDiagram.Xml.Namespace
import GridDiagram.Xml.Prolog
import GridDiagram.Xml.Reader
import GridDiagram.Xml.Scan
import GridDiagram.Xml.TextDeclaration
import GridDiagram.Xml.Token
import GridDiagram.Proofs.Outcome
import GridDiagram.Proofs.Tree
import GridDiagram.Proofs.Attribute.Range
import GridDiagram.Proofs.Properties
import GridDiagram.Proofs.Document.WellFormed
import GridDiagram.Proofs.Template.Scope
import GridDiagram.Proofs.Template.Replace
import GridDiagram.Proofs.Template.Instance
import GridDiagram.Proofs.Template.Reference
import GridDiagram.Proofs.Template.Expansion
import GridDiagram.Proofs.Template.Instances
import GridDiagram.Proofs.Template.Complete
import GridDiagram.Proofs.Template.Agreement
import GridDiagram.Proofs.Layout.Lines
import GridDiagram.Proofs.Exact
import GridDiagram.Proofs.Layout.Stages
import GridDiagram.Proofs.Layout.Measured
import GridDiagram.Proofs.Layout.Positioned
import GridDiagram.Proofs.Drawing
import GridDiagram.Proofs.Compile
import GridDiagram.Proofs.Layout.Intervals
import GridDiagram.Proofs.Layout.Box
import GridDiagram.Proofs.Layout.Sizes
import GridDiagram.Proofs.Layout.Cells
import GridDiagram.Proofs.Layout.Fit
import GridDiagram.Proofs.StyleSheet.Cascade
import GridDiagram.Proofs.StyleSheet.Inheritance
import GridDiagram.Proofs.StyleSheet.Nesting
import GridDiagram.Proofs.Template.Identifier
import GridDiagram.Proofs.Template.Qualified
import GridDiagram.Proofs.Template.Unique
import GridDiagram.Proofs.Correspondence
import GridDiagram.Proofs.Layout.Simulation
import GridDiagram.Proofs.Layout.Shape
import GridDiagram.Proofs.Layout.Translation
import GridDiagram.Proofs.Layout.Transposition
import GridDiagram.Proofs.Drawing.Elements
import GridDiagram.Proofs.Compile.Nodes
import GridDiagram.Proofs.Number.Finite
import GridDiagram.Proofs.Layout.Finite
import GridDiagram.Proofs.Drawing.Finite
import GridDiagram.Proofs.Compile.Taxonomy
import GridDiagram.Proofs.Cli.Inputs
import GridDiagram.Proofs.Cli.Workspace
import GridDiagram.Proofs.Cli.Reading
import GridDiagram.Proofs.Cli.Outputs
import GridDiagram.Proofs.Layout.Floors
import GridDiagram.Proofs.Layout.Crowded
import GridDiagram.Proofs.Layout.Expansion
import GridDiagram.Proofs.Template.Chain
import GridDiagram.Proofs.Template.Contents
import GridDiagram.Proofs.Layout.Places
import GridDiagram.Proofs.Layout.Shift
import GridDiagram.Proofs.Layout.Renumbering
import GridDiagram.Proofs.Layout.Renumbered
import GridDiagram.Proofs.Layout.Reordering
import GridDiagram.Proofs.Layout.Hull
import GridDiagram.Proofs.Layout.Leaves
import GridDiagram.Proofs.Layout.Growth
import GridDiagram.Proofs.Drawing.Bounds
import GridDiagram.Proofs.Drawing.Reserved
import GridDiagram.Proofs.Drawing.Polygon
import GridDiagram.Proofs.Drawing.Outline
import GridDiagram.Proofs.Drawing.Coordinate
import GridDiagram.Proofs.Text
import GridDiagram.Proofs.Text.Lines
import GridDiagram.Proofs.Color
import GridDiagram.Proofs.Number.Order
import GridDiagram.Proofs.Number.Numeral
import GridDiagram.Proofs.Number.Plain
import GridDiagram.Proofs.Number.Rounding
import GridDiagram.Proofs.Attribute.Constraints
import GridDiagram.Proofs.Attribute.Bounds
import GridDiagram.Proofs.Placement
import GridDiagram.Proofs.Document.Text
import GridDiagram.Proofs.Layout.Paths
import GridDiagram.Proofs.Compile.Paths
import GridDiagram.Proofs.Cli.Format
import GridDiagram.Proofs.Cli.Messages
