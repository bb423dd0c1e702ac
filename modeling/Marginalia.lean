import Marginalia.Build
import Marginalia.Cache.Basic
import Marginalia.Cache.Directory
import Marginalia.Cache.Disk
import Marginalia.Cache.Payload
import Marginalia.CommandLine.Command
import Marginalia.CommandLine.Flag
import Marginalia.CommandLine.Literal
import Marginalia.CommandLine.Plan
import Marginalia.CommandLine.Run
import Marginalia.Comment
import Marginalia.Config.Basic
import Marginalia.Config.File
import Marginalia.Diagnostic.Bag
import Marginalia.Diagnostic.Basic
import Marginalia.Diagnostic.Code
import Marginalia.Diagnostic.Listing
import Marginalia.Diagnostic.Severity
import Marginalia.Digest.Sha256
import Marginalia.Disk
import Marginalia.Extraction.Basic
import Marginalia.Extraction.Directory
import Marginalia.Extraction.Files
import Marginalia.Extraction.Source
import Marginalia.Json.Basic
import Marginalia.Json.Comments
import Marginalia.Json.Read
import Marginalia.Json.Record
import Marginalia.Main
import Marginalia.Marker.Basic
import Marginalia.Marker.Example
import Marginalia.MessagePack.Read
import Marginalia.MessagePack.Record
import Marginalia.MessagePack.Write
import Marginalia.Notes.Basic
import Marginalia.Notes.Fold
import Marginalia.Outline.Basic
import Marginalia.Outline.Declaration
import Marginalia.Outline.Expression
import Marginalia.Outline.Grammar
import Marginalia.Outline.Literal
import Marginalia.Outline.Reader
import Marginalia.Outline.Statement
import Marginalia.Outline.Term
import Marginalia.Outline.Token
import Marginalia.Outline.TypeForm
import Marginalia.Output.Basic
import Marginalia.Output.Document
import Marginalia.Output.Fragments
import Marginalia.Output.Pretty
import Marginalia.Output.Sarif
import Marginalia.Output.Stream
import Marginalia.Output.Style
import Marginalia.Owner.Decl
import Marginalia.Owner.GoParser
import Marginalia.Owner.Pattern
import Marginalia.Owner.Region
import Marginalia.Owner.Resolver
import Marginalia.Path
import Marginalia.Progress.Basic
import Marginalia.Progress.View
import Marginalia.Proofs.Cache.History
import Marginalia.Proofs.Notes.Rules
import Marginalia.Proofs.Notes.Parts
import Marginalia.Proofs.Owner.DocRun
import Marginalia.Proofs.Owner.Place
import Marginalia.Proofs.Scan.Elements
import Marginalia.Proofs.Scan.Place
import Marginalia.Proofs.Scan.Reading
import Marginalia.Proofs.Source.Position
import Marginalia.Proofs.Text.Normal
import Marginalia.Proofs.Text.Utf8
import Marginalia.Proofs.Text.Scalars
import Marginalia.Regex.Basic
import Marginalia.Regex.Budget
import Marginalia.Regex.CharClass
import Marginalia.Regex.Escape
import Marginalia.Regex.Join
import Marginalia.Regex.Match
import Marginalia.Regex.Parse
import Marginalia.Regex.Program
import Marginalia.Scan.Basic
import Marginalia.Scan.Cursor
import Marginalia.Scan.Lexeme
import Marginalia.Scan.Walk
import Marginalia.Source.File
import Marginalia.Source.FileSet
import Marginalia.Source.Position
import Marginalia.Text.Bytes
import Marginalia.Text.Chunk
import Marginalia.Text.Cluster
import Marginalia.Text.Decimal
import Marginalia.Text.Normal
import Marginalia.Text.Quoted
import Marginalia.Text.Space
import Marginalia.Text.Terminal
import Marginalia.Text.Utf8
import Marginalia.Timing
import Marginalia.Toml.Basic
import Marginalia.Toml.Document
import Marginalia.Toml.Number
import Marginalia.Toml.Read
import Marginalia.Toml.Text
import Marginalia.Unicode.CaseFold
import Marginalia.Unicode.Category
import Marginalia.Unicode.Cells
import Marginalia.Unicode.Combining
import Marginalia.Unicode.GraphemeClass
import Marginalia.Unicode.LowerCase
import Marginalia.Unicode.Presentation
import Marginalia.Unicode.Script
import Marginalia.Unicode.Table
import Marginalia.Proofs.Scan.LineEnd
import Marginalia.Proofs.Owner.Braces
import Marginalia.Proofs.Owner.Smallest
import Marginalia.Proofs.Scan.Faithful
import Marginalia.Proofs.Scan.Extent
import Marginalia.Proofs.Owner.Body
import Marginalia.Proofs.Extraction.Report
import Marginalia.Proofs.MessagePack.Record
import Marginalia.Proofs.Cache.RoundTrip
import Marginalia.Proofs.Cache.Capacity
import Marginalia.Proofs.Cache.Healing
import Marginalia.Proofs.Extraction.Files
import Marginalia.Proofs.Extraction.Schedule
import Marginalia.Proofs.Extraction.Directory
import Marginalia.Proofs.Progress.Interleaving
import Marginalia.Proofs.Extraction.Verdict
import Marginalia.Proofs.CommandLine.Reading
import Marginalia.Proofs.CommandLine.Override
import Marginalia.Proofs.Json.Text
import Marginalia.Proofs.Json.Value
import Marginalia.Proofs.Json.Comments
import Marginalia.Proofs.Output.Listing
import Marginalia.Proofs.Output.Blocks
import Marginalia.Proofs.Output.Agreement
import Marginalia.Proofs.Order.Stable
import Marginalia.Proofs.Owner.Innermost
import Marginalia.Proofs.Outline.Tokens
import Marginalia.Proofs.Outline.Regions
import Marginalia.Proofs.Outline.Ownership
import Marginalia.Proofs.Text.Lines
import Marginalia.Proofs.Source.Lines
import Marginalia.Proofs.Text.Space
import Marginalia.Proofs.Marker.Signs
import Marginalia.Proofs.Owner.Attached
import Marginalia.Proofs.Owner.WordDecl
import Marginalia.Proofs.Owner.Name
import Marginalia.Proofs.Keyed
import Marginalia.Proofs.Steps
import Marginalia.Proofs.Text.Affixes
import Marginalia.Proofs.Text.Cluster
import Marginalia.Proofs.Output.Painted
import Marginalia.Proofs.Disk.Write
import Marginalia.Proofs.Path.Relative
import Marginalia.Proofs.Path.Names
import Marginalia.Proofs.Owner.Normalized
import Marginalia.Proofs.Unicode.LowerCase
import Marginalia.Proofs.Config.Validated
import Marginalia.Proofs.Disk.Walk
import Marginalia.Proofs.Source.Versions
import Marginalia.Proofs.Source.Loading
import Marginalia.Proofs.Source.Reloading
import Marginalia.Proofs.Extraction.Selection
import Marginalia.Proofs.Config.Extensions
import Marginalia.Proofs.Order.Groups
import Marginalia.Proofs.Output.Lines
import Marginalia.Proofs.Output.Document
import Marginalia.Proofs.Diagnostic.Runs
import Marginalia.Proofs.Notes.Owners
import Marginalia.Proofs.Output.Fragments
import Marginalia.Proofs.Owner.Matching
import Marginalia.Proofs.Output.Context
import Marginalia.Proofs.Config.Discovery
import Marginalia.Proofs.Owner.Search
import Marginalia.Proofs.Scan.Walk
import Marginalia.Proofs.Marker.Canonical
