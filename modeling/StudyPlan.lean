import StudyPlan.Command.Failure
import StudyPlan.Command.Load
import StudyPlan.Command.Outcome
import StudyPlan.Command.Platforms
import StudyPlan.Command.Transform
import StudyPlan.Command.Validate
import StudyPlan.CommandLine.Arguments
import StudyPlan.CommandLine.Level
import StudyPlan.CommandLine.Version
import StudyPlan.CommandLine.Words
import StudyPlan.Decimal.Binary64
import StudyPlan.Decimal.Nearest
import StudyPlan.Decimal.Shortest
import StudyPlan.Decimal.Style
import StudyPlan.Description
import StudyPlan.Document.Description
import StudyPlan.Document.Format
import StudyPlan.Document.Load
import StudyPlan.Document.Trial
import StudyPlan.Document.Violation
import StudyPlan.Event
import StudyPlan.FileSystem.Access
import StudyPlan.FileSystem.Basic
import StudyPlan.FileSystem.Path
import StudyPlan.FileSystem.Problem
import StudyPlan.Json.Cursor
import StudyPlan.Json.Flaw
import StudyPlan.Json.Node
import StudyPlan.Json.NumberText
import StudyPlan.Json.Printer
import StudyPlan.Json.Read
import StudyPlan.Json.StringText
import StudyPlan.Json.Value
import StudyPlan.Logging.Basic
import StudyPlan.Logging.Filter
import StudyPlan.Main
import StudyPlan.OrderedMap
import StudyPlan.Program
import StudyPlan.Proofs.Building
import StudyPlan.Proofs.Checking
import StudyPlan.Proofs.CommandLine.Deeds
import StudyPlan.Proofs.CommandLine.Outcome
import StudyPlan.Proofs.CommandLine.Reading
import StudyPlan.Proofs.CommandLine.Voices
import StudyPlan.Proofs.Commands
import StudyPlan.Proofs.Description
import StudyPlan.Proofs.Distinct
import StudyPlan.Proofs.Effects
import StudyPlan.Proofs.Elements
import StudyPlan.Proofs.FileSystem.Path
import StudyPlan.Proofs.FileSystem.Writing
import StudyPlan.Proofs.FileSystem.Elsewhere
import StudyPlan.Proofs.Lookup
import StudyPlan.Proofs.Formats
import StudyPlan.Proofs.Interchange
import StudyPlan.Proofs.Json.Lawful
import StudyPlan.Proofs.Json.Legible
import StudyPlan.Proofs.Json.Members
import StudyPlan.Proofs.Json.NumberRead
import StudyPlan.Proofs.Json.NumberWritten
import StudyPlan.Proofs.Json.Passage
import StudyPlan.Proofs.Json.Passing
import StudyPlan.Proofs.Json.Reading
import StudyPlan.Proofs.Json.Spelling
import StudyPlan.Proofs.Json.StringRead
import StudyPlan.Proofs.Json.TextRead
import StudyPlan.Proofs.Json.TextWritten
import StudyPlan.Proofs.Loaders
import StudyPlan.Proofs.OrderedMap
import StudyPlan.Proofs.Output
import StudyPlan.Proofs.Overrides
import StudyPlan.Proofs.Places
import StudyPlan.Proofs.Reports
import StudyPlan.Proofs.RoundTrip
import StudyPlan.Proofs.Saving
import StudyPlan.Proofs.Scan
import StudyPlan.Proofs.Selection
import StudyPlan.Proofs.Session
import StudyPlan.Proofs.Shape
import StudyPlan.Proofs.Text.Parts
import StudyPlan.Proofs.Text.Quoted
import StudyPlan.Proofs.Text.Utf8
import StudyPlan.Proofs.Verdict
import StudyPlan.Proofs.Yaml.Common
import StudyPlan.Proofs.Yaml.Lawful
import StudyPlan.Proofs.Yaml.ScalarRead
import StudyPlan.Proofs.Yaml.Spelling
import StudyPlan.Proofs.Yaml.TokensRead
import StudyPlan.Proofs.Yaml.TreeRead
import StudyPlan.Report.Format
import StudyPlan.Report.Human
import StudyPlan.Report.Style
import StudyPlan.Report.Table
import StudyPlan.Report.Writer
import StudyPlan.Resolve
import StudyPlan.Schema.Format
import StudyPlan.Schema.Problem
import StudyPlan.Schema.Settings
import StudyPlan.Schema.Trial
import StudyPlan.Schema.Violation
import StudyPlan.SchemaPath
import StudyPlan.Session
import StudyPlan.Settings.Basic
import StudyPlan.Settings.Document
import StudyPlan.Settings.Load
import StudyPlan.Symbol
import StudyPlan.System
import StudyPlan.Text.Blank
import StudyPlan.Text.Glyph
import StudyPlan.Text.Hex
import StudyPlan.Text.Quoted
import StudyPlan.Text.Unprintable
import StudyPlan.Toml.Cursor
import StudyPlan.Toml.Document
import StudyPlan.Toml.Failure
import StudyPlan.Toml.Key
import StudyPlan.Toml.Moment
import StudyPlan.Toml.Node
import StudyPlan.Toml.NumberText
import StudyPlan.Toml.Read
import StudyPlan.Toml.StringText
import StudyPlan.Toml.Value
import StudyPlan.Trial
import StudyPlan.Violation
import StudyPlan.Yaml.Cursor
import StudyPlan.Yaml.Document
import StudyPlan.Yaml.Failure
import StudyPlan.Yaml.Implied
import StudyPlan.Yaml.Layout
import StudyPlan.Yaml.Node
import StudyPlan.Yaml.Printer
import StudyPlan.Yaml.Property
import StudyPlan.Yaml.Read
import StudyPlan.Yaml.Scalar
import StudyPlan.Yaml.Token
import StudyPlan.Yaml.Tokens
import StudyPlan.Proofs.Composition
import StudyPlan.Proofs.Log
import StudyPlan.Proofs.Coverage
import StudyPlan.Proofs.Offers
import StudyPlan.Proofs.StringMaps
import StudyPlan.Proofs.Settings.Files
import StudyPlan.Proofs.Settings.Overlay
import StudyPlan.Proofs.Columns
