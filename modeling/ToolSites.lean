import ToolSites.Binary64.Basic
import ToolSites.Binary64.Shortest
import ToolSites.CommandLine.Arguments
import ToolSites.CommandLine.Run
import ToolSites.Config.Basic
import ToolSites.Config.Load
import ToolSites.Config.Schema
import ToolSites.Console.Color
import ToolSites.Console.Emoji
import ToolSites.Console.Emoji.Names
import ToolSites.Console.Handler
import ToolSites.Console.Lines
import ToolSites.Console.Markup
import ToolSites.Console.Style
import ToolSites.Console.Table
import ToolSites.Environment
import ToolSites.Error
import ToolSites.Event
import ToolSites.Expansion
import ToolSites.Files.Fault
import ToolSites.Files.Replace
import ToolSites.Files.Tree
import ToolSites.Host
import ToolSites.Json.Document
import ToolSites.Json.Printer
import ToolSites.Json.Reader
import ToolSites.Json.Token
import ToolSites.Literal.Check
import ToolSites.Literal.Fault
import ToolSites.Literal.Grammar
import ToolSites.Literal.Reader
import ToolSites.Literal.Token
import ToolSites.Location
import ToolSites.Main
import ToolSites.NameMap
import ToolSites.Node
import ToolSites.NodeRegistry
import ToolSites.OverrideSet
import ToolSites.Path
import ToolSites.Problems
import ToolSites.Proofs.CommandLine.Checking
import ToolSites.Proofs.CommandLine.Editing
import ToolSites.Proofs.CommandLine.Effects
import ToolSites.Proofs.CommandLine.Listing
import ToolSites.Proofs.CommandLine.Reporting
import ToolSites.Proofs.Config.Acceptance
import ToolSites.Proofs.Config.Loading
import ToolSites.Proofs.Config.Reading
import ToolSites.Proofs.Config.Valid
import ToolSites.Proofs.Console.Markup
import ToolSites.Proofs.Console.Table
import ToolSites.Proofs.Environment.Arrangement
import ToolSites.Proofs.Environment.Assembly
import ToolSites.Proofs.Environment.Configured
import ToolSites.Proofs.Environment.Invariant
import ToolSites.Proofs.Environment.Keeping
import ToolSites.Proofs.Environment.Parts
import ToolSites.Proofs.Environment.Problems
import ToolSites.Proofs.Environment.Provenance
import ToolSites.Proofs.Environment.Publishing
import ToolSites.Proofs.Environment.Reload
import ToolSites.Proofs.Environment.Sharing
import ToolSites.Proofs.Environment.Storing
import ToolSites.Proofs.Expansion
import ToolSites.Proofs.Files.Again
import ToolSites.Proofs.Files.Beside
import ToolSites.Proofs.Files.Making
import ToolSites.Proofs.Files.Replace
import ToolSites.Proofs.Interchange
import ToolSites.Proofs.Json.Distinct
import ToolSites.Proofs.Json.Numbers
import ToolSites.Proofs.Json.RoundTrip
import ToolSites.Proofs.Json.Stopping
import ToolSites.Proofs.Json.Strings
import ToolSites.Proofs.NodeRegistry
import ToolSites.Proofs.NodeRegistry.History
import ToolSites.Proofs.OverrideSet
import ToolSites.Proofs.Resolution
import ToolSites.Proofs.Results
import ToolSites.Proofs.Staleness
import ToolSites.Proofs.Store.RoundTrip
import ToolSites.Proofs.Store.Saving
import ToolSites.Proofs.Store.Shape
import ToolSites.Proofs.Text.Utf8
import ToolSites.Proofs.Toml.Fuel
import ToolSites.Proofs.Toml.LongIntegers
import ToolSites.Proofs.Toml.Remainders
import ToolSites.Proofs.Toml.Stopping
import ToolSites.Proofs.Tool.Key
import ToolSites.Proofs.Tool.Registry
import ToolSites.Resolution
import ToolSites.Store
import ToolSites.Tables
import ToolSites.Text.Blank
import ToolSites.Text.Columns
import ToolSites.Text.Digits
import ToolSites.Text.Identifier
import ToolSites.Text.Lower
import ToolSites.Text.Newlines
import ToolSites.Text.Printable
import ToolSites.Text.Quoted
import ToolSites.Text.Ranges
import ToolSites.Text.Spelling
import ToolSites.Text.Utf8
import ToolSites.Text.Word
import ToolSites.Toml.Moment
import ToolSites.Toml.Number
import ToolSites.Toml.Reader
import ToolSites.Toml.Tables
import ToolSites.Toml.Text
import ToolSites.Tool.Installation
import ToolSites.Tool.Key
import ToolSites.Tool.Registry
import ToolSites.Tool.Type
import ToolSites.Value
