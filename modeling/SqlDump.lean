import SqlDump.Text
import SqlDump.Text.Blank
import SqlDump.Text.Search
import SqlDump.Text.Utf8
import SqlDump.Text.Escaped
import SqlDump.Text.Alphanumeric
import SqlDump.Value
import SqlDump.ValueList
import SqlDump.ValueList.Scan
import SqlDump.Insert
import SqlDump.Insert.Grammar
import SqlDump.Outcome
import SqlDump.Notice
import SqlDump.Notice.Log
import SqlDump.Rule
import SqlDump.Rule.Price
import SqlDump.Rule.Packages
import SqlDump.Rule.Members
import SqlDump.RuleBook
import SqlDump.Settings
import SqlDump.Cleaner
import SqlDump.Gatherer
import SqlDump.Device
import SqlDump.Input
import SqlDump.Action
import SqlDump.Pass
import SqlDump.Number
import SqlDump.Pattern.Escape
import SqlDump.Pattern.Bracket
import SqlDump.Pattern
import SqlDump.Toml.Node
import SqlDump.Toml.Strings
import SqlDump.Toml.Numbers
import SqlDump.Toml.Moments
import SqlDump.Toml.Values
import SqlDump.Toml.Document
import SqlDump.Files
import SqlDump.CommandLine.Arguments
import SqlDump.CommandLine.Help
import SqlDump.CommandLine
import SqlDump.Main
import SqlDump.Proofs.Text.Trimming
import SqlDump.Proofs.Text.Occurrences
import SqlDump.Proofs.Text.Decoding
import SqlDump.Proofs.Text.Lines
import SqlDump.Proofs.ValueList.Undivided
import SqlDump.Proofs.ValueList.Stops
import SqlDump.Proofs.ValueList.LiteralRuns
import SqlDump.Proofs.ValueList.Reading
import SqlDump.Proofs.ValueList.Writing
import SqlDump.Proofs.Insert.FirstHead
import SqlDump.Proofs.Insert.Lead
import SqlDump.Proofs.Gatherer.Watch
import SqlDump.Proofs.Gatherer.Statement
import SqlDump.Proofs.Gatherer.Calmer
import SqlDump.Proofs.Value.Quoting
import SqlDump.Proofs.Insert.Rewritten
import SqlDump.Proofs.Rule.PricedLead
import SqlDump.Proofs.Rule.Settling
import SqlDump.Proofs.Rule.Packages
import SqlDump.Proofs.Rule.Members
import SqlDump.Proofs.Action.Buffers
import SqlDump.Proofs.Action.Bounded
import SqlDump.Proofs.Pass.Cleaning
import SqlDump.Proofs.Pass.Idempotence
import SqlDump.Proofs.Pass.Commuting
import SqlDump.Proofs.Gatherer.Segmentation
import SqlDump.Proofs.Pass.Statements
import SqlDump.Proofs.ValueList.Closing
import SqlDump.Proofs.Pass.SingleRow
import SqlDump.Proofs.Action.Limits
import SqlDump.Proofs.Action.Outlets
import SqlDump.Proofs.Pass.Faults
import SqlDump.Proofs.Cleaner.Rows
import SqlDump.Proofs.Cleaner.Members
import SqlDump.Proofs.Text.Replacing
import SqlDump.Proofs.Rule.Cleaning
import SqlDump.Proofs.Cleaner.Packages
import SqlDump.Proofs.Rule.PricedColumns
import SqlDump.Proofs.Cleaner.PackageColumns
import SqlDump.Proofs.Text.Pending
import SqlDump.Proofs.Text.Lossy
import SqlDump.Proofs.Pass.Decoding
import SqlDump.Proofs.Gatherer.Joining
import SqlDump.Proofs.Pass.Joining
import SqlDump.Proofs.Insert.Grammar
import SqlDump.Proofs.ValueList.Borders
import SqlDump.Proofs.ValueList.Obstacles
import SqlDump.Proofs.CommandLine.Arguments
import SqlDump.Proofs.Pass.Bounded
import SqlDump.Proofs.CommandLine.Agreement
import SqlDump.Proofs.Value.Contents
import SqlDump.Proofs.Cleaner.Expressions
import SqlDump.Proofs.Gatherer.Conservation
import SqlDump.ValueList.Reader
import SqlDump.Proofs.ValueList.Extents
import SqlDump.Proofs.ValueList.Repetition
import SqlDump.Proofs.Cleaner.Warnings
import SqlDump.Proofs.Pass.Log
import SqlDump.RuleBook.Requests
import SqlDump.Proofs.Text.Order
import SqlDump.Proofs.Pass.Resolution
