import ModePolicy.CommandLine.Consume
import ModePolicy.CommandLine.Options
import ModePolicy.CommandLine.Parameters
import ModePolicy.CommandLine.Request
import ModePolicy.CommandLine.Run
import ModePolicy.CommandLine.Usage
import ModePolicy.Console.Display
import ModePolicy.Console.Markup
import ModePolicy.Console.Table
import ModePolicy.Console.Wrap
import ModePolicy.Experiment
import ModePolicy.Failure
import ModePolicy.Files.Path
import ModePolicy.Files.Tree
import ModePolicy.Instructions.Aggregation
import ModePolicy.Instructions.RuleFile
import ModePolicy.Instructions.Rules
import ModePolicy.Json.Basic
import ModePolicy.Json.Literal
import ModePolicy.Json.Printer
import ModePolicy.Json.Reader
import ModePolicy.Main
import ModePolicy.Mode.Basic
import ModePolicy.Mode.Builtin
import ModePolicy.Mode.Effective
import ModePolicy.Mode.Flaw
import ModePolicy.Mode.Lookup
import ModePolicy.Mode.Prompts
import ModePolicy.Mode.Reading
import ModePolicy.Mode.Schema
import ModePolicy.Mode.Validation
import ModePolicy.Number.Binary64
import ModePolicy.Number.ShortestDecimal
import ModePolicy.Pattern.Basic
import ModePolicy.Pattern.Error
import ModePolicy.Pattern.Lead
import ModePolicy.Pattern.Marks
import ModePolicy.Pattern.Matcher
import ModePolicy.Pattern.Parser
import ModePolicy.Permission.Check
import ModePolicy.Permission.Decision
import ModePolicy.Permission.FilePattern
import ModePolicy.Permission.Requirements
import ModePolicy.Profile
import ModePolicy.Proofs.CommandLine.Checking
import ModePolicy.Proofs.CommandLine.Ending
import ModePolicy.Proofs.CommandLine.Lines
import ModePolicy.Proofs.CommandLine.Loading
import ModePolicy.Proofs.CommandLine.Parameters
import ModePolicy.Proofs.CommandLine.Spelling
import ModePolicy.Proofs.CommandLine.Statuses
import ModePolicy.Proofs.Console.Markup
import ModePolicy.Proofs.Files.Outside
import ModePolicy.Proofs.Files.Tree
import ModePolicy.Proofs.Instructions.Directory
import ModePolicy.Proofs.Instructions.Isolation
import ModePolicy.Proofs.Instructions.Loading
import ModePolicy.Proofs.Instructions.Locations
import ModePolicy.Proofs.Instructions.Merging
import ModePolicy.Proofs.Instructions.Sections
import ModePolicy.Proofs.Json.RoundTrip
import ModePolicy.Proofs.Json.Schema
import ModePolicy.Proofs.Json.Values
import ModePolicy.Proofs.Mode.Canonical
import ModePolicy.Proofs.Mode.Conformance
import ModePolicy.Proofs.Mode.EmptyOverrides
import ModePolicy.Proofs.Mode.Grammar
import ModePolicy.Proofs.Mode.Listing
import ModePolicy.Proofs.Mode.Merging
import ModePolicy.Proofs.Mode.Overrides
import ModePolicy.Proofs.Mode.Validity
import ModePolicy.Proofs.Outcome
import ModePolicy.Proofs.Pattern.Groupless
import ModePolicy.Proofs.Pattern.Meaning
import ModePolicy.Proofs.Permission.Answers
import ModePolicy.Proofs.Permission.Decision
import ModePolicy.Proofs.Permission.EditGrant
import ModePolicy.Proofs.Permission.GroupOrder
import ModePolicy.Proofs.Permission.Listed
import ModePolicy.Proofs.Permission.Parameters
import ModePolicy.Proofs.Permission.Switches
import ModePolicy.Proofs.Permission.Unusable
import ModePolicy.Proofs.Permission.WritableFiles
import ModePolicy.Proofs.Profile.Changes
import ModePolicy.Proofs.Profile.Checks
import ModePolicy.Proofs.Profile.Fallback
import ModePolicy.Proofs.Profile.Separation
import ModePolicy.Proofs.Settings.CustomModes
import ModePolicy.Proofs.Settings.Import
import ModePolicy.Proofs.Settings.Loading
import ModePolicy.Proofs.Settings.NormalForm
import ModePolicy.Proofs.Settings.Problems
import ModePolicy.Proofs.Settings.RoundTrip
import ModePolicy.Proofs.Text.Blank
import ModePolicy.Proofs.Text.Utf8
import ModePolicy.Proofs.Tool.Union
import ModePolicy.Proofs.Toolbox.Changes
import ModePolicy.Proofs.Toolbox.Enabled
import ModePolicy.Proofs.Toolbox.Filter
import ModePolicy.Proofs.Toolbox.Servers
import ModePolicy.Proofs.Toolbox.Switching
import ModePolicy.Report
import ModePolicy.Settings.Basic
import ModePolicy.Settings.Flaw
import ModePolicy.Settings.Reading
import ModePolicy.Settings.Schema
import ModePolicy.Settings.Validation
import ModePolicy.Text.Blank
import ModePolicy.Text.CellWidth
import ModePolicy.Text.Hex
import ModePolicy.Text.Identifier
import ModePolicy.Text.Letter
import ModePolicy.Text.LetterCase
import ModePolicy.Text.Lines
import ModePolicy.Text.Printable
import ModePolicy.Text.Quoted
import ModePolicy.Text.Range
import ModePolicy.Text.Sorted
import ModePolicy.Text.Utf8
import ModePolicy.Tool.Call
import ModePolicy.Tool.Definition
import ModePolicy.Tool.Granted
import ModePolicy.Tool.Group
import ModePolicy.Toolbox
