import Bundler.Artifact.Listing
import Bundler.Artifact.Summary
import Bundler.Bundle.Assembly
import Bundler.CommandLine.Execution
import Bundler.Configuration
import Bundler.Disk.Change
import Bundler.Disk.Listing
import Bundler.Disk.Real
import Bundler.Frontend
import Bundler.Graph.Builder
import Bundler.Import.Scoping
import Bundler.Json.Reader
import Bundler.Json.Writer
import Bundler.Main
import Bundler.ModuleName
import Bundler.Number.Binary64
import Bundler.Number.Shortest
import Bundler.Proofs.Artifact.Confinement
import Bundler.Proofs.Artifact.Counts
import Bundler.Proofs.Artifact.Listing
import Bundler.Proofs.Artifact.Refusal
import Bundler.Proofs.Artifact.Separation
import Bundler.Proofs.Artifact.Summary
import Bundler.Proofs.Artifact.Writing
import Bundler.Proofs.Bundle.Script
import Bundler.Proofs.Bundle.Statements
import Bundler.Proofs.Bundle.Table
import Bundler.Proofs.CommandLine.Calls
import Bundler.Proofs.CommandLine.Changes
import Bundler.Proofs.CommandLine.Refusal
import Bundler.Proofs.Disk.Ascent
import Bundler.Proofs.Disk.Copy
import Bundler.Proofs.Disk.Editing
import Bundler.Proofs.Disk.Extent
import Bundler.Proofs.Disk.Growth
import Bundler.Proofs.Disk.Lookup
import Bundler.Proofs.Disk.Proper
import Bundler.Proofs.Disk.RealPath
import Bundler.Proofs.Disk.Storing
import Bundler.Proofs.Disk.Vacant
import Bundler.Proofs.Graph.Agreement
import Bundler.Proofs.Graph.Attribution
import Bundler.Proofs.Graph.Edges
import Bundler.Proofs.Graph.Failure
import Bundler.Proofs.Graph.Independence
import Bundler.Proofs.Graph.Limit
import Bundler.Proofs.Graph.Loop
import Bundler.Proofs.Graph.Probes
import Bundler.Proofs.Graph.Sources
import Bundler.Proofs.Graph.Transfer
import Bundler.Proofs.Graph.Unrolling
import Bundler.Proofs.Import.Closure
import Bundler.Proofs.Import.Exact
import Bundler.Proofs.Import.Failure
import Bundler.Proofs.Import.Heads
import Bundler.Proofs.Import.Plain
import Bundler.Proofs.Import.Probes
import Bundler.Proofs.Import.Replacement
import Bundler.Proofs.Json.Order
import Bundler.Proofs.Json.Reading
import Bundler.Proofs.Json.Words
import Bundler.Proofs.ModuleName
import Bundler.Proofs.Path.Location
import Bundler.Proofs.Path.Normal
import Bundler.Proofs.Reference.Below
import Bundler.Proofs.Reference.Dotted
import Bundler.Proofs.Reference.Failure
import Bundler.Proofs.Reference.Spelling
import Bundler.Proofs.Relocation
import Bundler.Proofs.Settings.Failure
import Bundler.Proofs.Syntax.Layout
import Bundler.Proofs.Syntax.Lexing
import Bundler.Proofs.Syntax.Literal
import Bundler.Proofs.Syntax.Piece
import Bundler.Proofs.Syntax.Statements
import Bundler.Proofs.Syntax.Words
import Bundler.Proofs.Syntax.Yielding
import Bundler.Proofs.Syntax.Yielding.Expression
import Bundler.Proofs.Syntax.Yielding.Statement
import Bundler.Proofs.Text.NormalForm
import Bundler.Proofs.Toml.Reading
import Bundler.Proofs.Verification.Acceptance
import Bundler.Proofs.Verification.Contents
import Bundler.Proofs.Verification.Verdict
import Bundler.Reference
import Bundler.Syntax.Fault
import Bundler.Syntax.Literal
import Bundler.Syntax.Literal.Escape
import Bundler.Syntax.Parser
import Bundler.Syntax.Parser.Basic
import Bundler.Syntax.Parser.Expression
import Bundler.Syntax.Parser.Parameter
import Bundler.Syntax.Parser.Pattern
import Bundler.Syntax.Parser.Target
import Bundler.Syntax.Printer
import Bundler.Syntax.Token
import Bundler.Syntax.Token.Lexer
import Bundler.Syntax.Token.Numeral
import Bundler.Syntax.Tree
import Bundler.Text.CharacterName
import Bundler.Text.CodePoints
import Bundler.Text.Identifier
import Bundler.Text.Normalization
import Bundler.Text.Printable
import Bundler.Text.Quoted
import Bundler.Text.RangeTable
import Bundler.Text.Split
import Bundler.Text.Utf8
import Bundler.Text.WordCharacter
import Bundler.Verification
