import DeltaLint.Cli.Check
import DeltaLint.Cli.Command
import DeltaLint.Cli.Init
import DeltaLint.Cli.Outcome
import DeltaLint.Cli.Page
import DeltaLint.Cli.Value
import DeltaLint.Console.Basic
import DeltaLint.Console.Status
import DeltaLint.Console.Table
import DeltaLint.Datum.Basic
import DeltaLint.Datum.Shown
import DeltaLint.Description
import DeltaLint.Failure
import DeltaLint.Json.Printer
import DeltaLint.Json.Reader
import DeltaLint.Linter.Registry
import DeltaLint.Linter.Candidates
import DeltaLint.Linter.Definition
import DeltaLint.Log.Event
import DeltaLint.Log.Session
import DeltaLint.Main
import DeltaLint.Markup.Reader
import DeltaLint.Markup.Style
import DeltaLint.Number.Binary64
import DeltaLint.Number.Numeral
import DeltaLint.Patch.Changes
import DeltaLint.Path.Basic
import DeltaLint.Pattern.Matcher
import DeltaLint.Pattern.Escape
import DeltaLint.Pattern.Fault
import DeltaLint.Pattern.Reader
import DeltaLint.Pattern.Source
import DeltaLint.Pattern.Term
import DeltaLint.Problem
import DeltaLint.Report.Document
import DeltaLint.Report.Listing
import DeltaLint.Revision.Range
import DeltaLint.Revision.FileDiffs
import DeltaLint.Run.Correlate
import DeltaLint.Run.Dispatch
import DeltaLint.Run.Range
import DeltaLint.Run.Plan
import DeltaLint.Run.Unit
import DeltaLint.Settings.Config
import DeltaLint.Settings.Environment
import DeltaLint.Settings.Field
import DeltaLint.Settings.Load
import DeltaLint.Settings.Reading
import DeltaLint.Settings.Starter
import DeltaLint.Settings.UserFile
import DeltaLint.Shell.Arithmetic
import DeltaLint.Shell.Command
import DeltaLint.Shell.Format
import DeltaLint.Shell.Run
import DeltaLint.Shell.Reader
import DeltaLint.Shell.State
import DeltaLint.Shell.Builtin
import DeltaLint.Shell.Token
import DeltaLint.Text.Blank
import DeltaLint.Text.CharacterName
import DeltaLint.Text.Digit
import DeltaLint.Text.Identifier
import DeltaLint.Text.LetterCase
import DeltaLint.Text.Literal
import DeltaLint.Text.Printable
import DeltaLint.Text.RangeTable
import DeltaLint.Text.Replace
import DeltaLint.Text.Utf8
import DeltaLint.Text.Width
import DeltaLint.Text.Word
import DeltaLint.Tree.Basic
import DeltaLint.Tree.Canonical
import DeltaLint.Tree.Host
import DeltaLint.Tree.Program
import DeltaLint.Tree.Project
import DeltaLint.Tree.Store
import DeltaLint.Yaml.Cursor
import DeltaLint.Yaml.Node
import DeltaLint.Yaml.Reader
import DeltaLint.Yaml.Printer
import DeltaLint.Yaml.Scalar.Text
import DeltaLint.Yaml.Scalar.Value
import DeltaLint.Yaml.Token
import DeltaLint.Yaml.Token.Lexer
import DeltaLint.Proofs.Cli.Schedules
import DeltaLint.Proofs.Linter.Candidates
import DeltaLint.Proofs.List.Keyed
import DeltaLint.Proofs.List.Pointwise
import DeltaLint.Proofs.List.Sifted
import DeltaLint.Proofs.Patch.Headers
import DeltaLint.Proofs.Patch.Lines
import DeltaLint.Proofs.Patch.Printed
import DeltaLint.Proofs.Revision.FileDiffs
import DeltaLint.Proofs.Run.Isolation
import DeltaLint.Proofs.Run.Messages
import DeltaLint.Proofs.Run.Units
import DeltaLint.Proofs.Run.Outcome
import DeltaLint.Proofs.Run.Patches
import DeltaLint.Proofs.Run.Plan
import DeltaLint.Proofs.Run.Pool
import DeltaLint.Proofs.Run.Reported
import DeltaLint.Proofs.Run.Steps
import DeltaLint.Proofs.Run.Survival
import DeltaLint.Proofs.Run.Task
import DeltaLint.Proofs.Run.Verdicts
import DeltaLint.Proofs.Settings.Checked
import DeltaLint.Proofs.Settings.Chosen
import DeltaLint.Proofs.Settings.Endings
import DeltaLint.Proofs.Settings.Failures
import DeltaLint.Proofs.Settings.Reading
import DeltaLint.Proofs.Settings.Sources
import DeltaLint.Proofs.Settings.Stages
import DeltaLint.Proofs.Text.Digits
import DeltaLint.Proofs.Text.Sorted
import DeltaLint.Proofs.Text.Split
import DeltaLint.Proofs.Tree.Straight
import DeltaLint.Proofs.Settings.Layers
import DeltaLint.Proofs.Settings.Variables
import DeltaLint.Proofs.Settings.FileFields
import DeltaLint.Proofs.Settings.Precedence
import DeltaLint.Proofs.Pattern.Places
import DeltaLint.Proofs.Pattern.Search
import DeltaLint.Proofs.Pattern.Lines
import DeltaLint.Proofs.Pattern.LineSearch
import DeltaLint.Proofs.Linter.Lines
import DeltaLint.Proofs.Pattern.Readings
import DeltaLint.Proofs.Linter.Builtin
import DeltaLint.Proofs.Linter.Reports
import DeltaLint.Proofs.Revision.Grammar
import DeltaLint.Proofs.Linter.EmacsReports
import DeltaLint.Proofs.Revision.Printed
import DeltaLint.Proofs.Patch.Sections
import DeltaLint.Proofs.Revision.Endpoints
import DeltaLint.Proofs.Linter.Construction
import DeltaLint.Proofs.Pattern.Traced
import DeltaLint.Proofs.Pattern.Refusals
import DeltaLint.Proofs.Linter.Extensions
import DeltaLint.Proofs.Console.Layout
import DeltaLint.Proofs.Markup.Crossing
import DeltaLint.Proofs.Report.Lines
import DeltaLint.Proofs.Report.Listing
import DeltaLint.Proofs.Report.Summary
import DeltaLint.Proofs.Path.Text
import DeltaLint.Proofs.Report.Order
import DeltaLint.Proofs.Tree.Marks
import DeltaLint.Proofs.Tree.Changes
import DeltaLint.Proofs.Cli.Starting
import DeltaLint.Proofs.Yaml.Words
import DeltaLint.Proofs.Yaml.Tokens
import DeltaLint.Proofs.Yaml.Listing
import DeltaLint.Proofs.Settings.Starter
import DeltaLint.Proofs.Settings.Written
import DeltaLint.Proofs.Json.Numbers
import DeltaLint.Proofs.Json.Texts
import DeltaLint.Proofs.Json.ReadBack
import DeltaLint.Proofs.Json.Ascii
import DeltaLint.Proofs.Report.Document
import DeltaLint.Proofs.Settings.Top
import DeltaLint.Proofs.Number.NotANumber
import DeltaLint.Proofs.Settings.Limits
import DeltaLint.Proofs.Linter.Registry
import DeltaLint.Proofs.Markup.Bare
import DeltaLint.Proofs.Console.Table
import DeltaLint.Proofs.Cli.Linters
import DeltaLint.Settings.Cells
import DeltaLint.Proofs.Datum.Keys
import DeltaLint.Proofs.Settings.Leaves
import DeltaLint.Proofs.Settings.Cells
import DeltaLint.Proofs.Text.Utf8
import DeltaLint.Log.Logger
import DeltaLint.Proofs.Settings.Outputs
import DeltaLint.Proofs.Run.Output
import DeltaLint.Proofs.Tree.Links
import DeltaLint.Proofs.Tree.Spelling
import DeltaLint.Proofs.Run.Spelling
import DeltaLint.Proofs.Tree.Files
import DeltaLint.Proofs.Log.Delivery
import DeltaLint.Proofs.Path.Relative
import DeltaLint.Proofs.Tree.Executables
import DeltaLint.Proofs.Tree.LinkFree
import DeltaLint.Proofs.Log.Shortened
