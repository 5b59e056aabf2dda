import ViewAtlas.Atlas.Analysis
import ViewAtlas.Atlas.Options
import ViewAtlas.CommandLine.Help
import ViewAtlas.CommandLine.Options
import ViewAtlas.CommandLine.Run
import ViewAtlas.Component.Analysis
import ViewAtlas.File.Disk
import ViewAtlas.File.Glob
import ViewAtlas.File.Path
import ViewAtlas.File.Wildcard
import ViewAtlas.File.Writing
import ViewAtlas.Instant
import ViewAtlas.Json.Printer
import ViewAtlas.Json.Reader
import ViewAtlas.Json.Relaxed
import ViewAtlas.Json.Token
import ViewAtlas.Json.Value
import ViewAtlas.Logic.Call
import ViewAtlas.Logic.EventMap
import ViewAtlas.Logic.Rules
import ViewAtlas.Main
import ViewAtlas.Malformed
import ViewAtlas.Noted
import ViewAtlas.Notice
import ViewAtlas.Number.Binary64
import ViewAtlas.Number.Decimal
import ViewAtlas.Project.Configuration
import ViewAtlas.Project.Failure
import ViewAtlas.Project.Imports
import ViewAtlas.Project.Reading
import ViewAtlas.Project.Selection
import ViewAtlas.Report
import ViewAtlas.Route.Map
import ViewAtlas.Route.Navigation
import ViewAtlas.Script.Classes
import ViewAtlas.Script.Expressions
import ViewAtlas.Script.Lexeme
import ViewAtlas.Script.Literal
import ViewAtlas.Script.Outline
import ViewAtlas.Script.Reader
import ViewAtlas.Script.Reading
import ViewAtlas.Script.Statements
import ViewAtlas.Script.Tree
import ViewAtlas.Script.Typing
import ViewAtlas.Table
import ViewAtlas.Template.Growth
import ViewAtlas.Template.Mask
import ViewAtlas.Template.Node
import ViewAtlas.Template.Reading
import ViewAtlas.Template.Tag
import ViewAtlas.Text.Basic
import ViewAtlas.Text.Blank
import ViewAtlas.Text.Case
import ViewAtlas.Text.Entity
import ViewAtlas.Text.Entity.Names
import ViewAtlas.Text.Letter
import ViewAtlas.Text.Printable
import ViewAtlas.Text.Sha1
import ViewAtlas.Text.Span
import ViewAtlas.Text.Utf8
import ViewAtlas.Widget.Extraction
import ViewAtlas.Widget.Identifier
import ViewAtlas.Widget.Strategy
import ViewAtlas.Proofs.Template.Masking
import ViewAtlas.Proofs.Template.Offsets
import ViewAtlas.Proofs.Template.Placement
import ViewAtlas.Proofs.Template.Growing
import ViewAtlas.Proofs.Template.Nesting
import ViewAtlas.Proofs.Widget.Distinct
import ViewAtlas.Proofs.Project.Closure
import ViewAtlas.Proofs.Project.Following
import ViewAtlas.Proofs.Template.Expressions
import ViewAtlas.Proofs.Template.Pieces
import ViewAtlas.Proofs.Template.Places
import ViewAtlas.Proofs.Template.RoundTrip
import ViewAtlas.Proofs.Atlas.Integrity
import ViewAtlas.Proofs.Atlas.Skipping
import ViewAtlas.Proofs.Project.Excluding
import ViewAtlas.Proofs.Template.Comments
import ViewAtlas.Proofs.Template.Balance
import ViewAtlas.Proofs.Template.Parameters
import ViewAtlas.Proofs.Script.Order
import ViewAtlas.Proofs.Route.Matching
import ViewAtlas.Proofs.Logic.Keeping
import ViewAtlas.Proofs.Logic.StaticRoutes
import ViewAtlas.Proofs.Logic.Resolution
import ViewAtlas.Proofs.Logic.Locality
import ViewAtlas.Proofs.Atlas.Independence
import ViewAtlas.Proofs.Atlas.Numbering
import ViewAtlas.Proofs.Json.Writing
import ViewAtlas.Proofs.Json.Lexing
import ViewAtlas.Proofs.Json.Parsing
import ViewAtlas.Proofs.Json.Relaxing
import ViewAtlas.Proofs.Json.Printing
import ViewAtlas.Proofs.Project.Loading
import ViewAtlas.Proofs.Project.Contents
import ViewAtlas.Proofs.Project.Failing
import ViewAtlas.Proofs.Script.Variables
import ViewAtlas.Proofs.Script.Calls
import ViewAtlas.Proofs.Script.Classes
import ViewAtlas.Proofs.Route.Listing
import ViewAtlas.Proofs.Route.Segments
import ViewAtlas.Proofs.Route.Resolving
import ViewAtlas.Proofs.Atlas.Reporting
import ViewAtlas.Proofs.Script.Items
import ViewAtlas.Proofs.Script.Outlines
import ViewAtlas.Proofs.Template.Covering
import ViewAtlas.Proofs.Template.PlainText
import ViewAtlas.Proofs.Template.Dividing
import ViewAtlas.Proofs.Template.StrayBrackets
import ViewAtlas.Proofs.Template.Interchange
import ViewAtlas.Proofs.Widget.Extracting
import ViewAtlas.Proofs.Widget.Counting
import ViewAtlas.Proofs.Widget.Repeating
import ViewAtlas.Proofs.Widget.LinkTarget
import ViewAtlas.Proofs.Project.Inheriting
import ViewAtlas.Proofs.Project.Circles
import ViewAtlas.Proofs.Logic.Controls
import ViewAtlas.Proofs.Script.StringValues
import ViewAtlas.Proofs.Project.Importing
import ViewAtlas.Template.Conversion
