import UnsafeCensus.Text.Str
import UnsafeCensus.Text.Codec
import UnsafeCensus.Text.Identifier
import UnsafeCensus.Text.Position
import UnsafeCensus.Text.Printable
import UnsafeCensus.Text.WordChar
import UnsafeCensus.Tree.Rows
import UnsafeCensus.Tree.Traversal
import UnsafeCensus.Census.Walk
import UnsafeCensus.Text.Quoted
import UnsafeCensus.Text.Comment
import UnsafeCensus.Value.Double
import UnsafeCensus.Value.Table
import UnsafeCensus.Value.Basic
import UnsafeCensus.Files.Discovery
import UnsafeCensus.Failure.Diagnosis
import UnsafeCensus.Fault.Basic
import UnsafeCensus.Toml.Document
import UnsafeCensus.Scan.Basic
import UnsafeCensus.Settings.Host
import UnsafeCensus.Settings.Sources
import UnsafeCensus.Journal.Session
import UnsafeCensus.Census.Arguments
import UnsafeCensus.Grammar.Parser
import UnsafeCensus.Proofs.Tree.Position
import UnsafeCensus.Proofs.Tree.Traversal
import UnsafeCensus.Proofs.Tree.Thinning
import UnsafeCensus.Proofs.Tree.Edit
import UnsafeCensus.Proofs.Census.Walk
import UnsafeCensus.Proofs.Census.Counting
import UnsafeCensus.Proofs.Attribute.Decorations
import UnsafeCensus.Proofs.Census.Edits
import UnsafeCensus.Proofs.Census.Sums
import UnsafeCensus.Proofs.Census.Following
import UnsafeCensus.Proofs.Census.Comments
import UnsafeCensus.Proofs.Census.Concatenation
import UnsafeCensus.Proofs.Census.Independence
import UnsafeCensus.Proofs.Census.Forbidding
import UnsafeCensus.Proofs.Census.TestItems
import UnsafeCensus.Proofs.Census.Pruning
import UnsafeCensus.Proofs.Failure.FirstFlaw
import UnsafeCensus.Proofs.Text.Position
import UnsafeCensus.Proofs.Text.Reading
import UnsafeCensus.Proofs.Text.Utf8
import UnsafeCensus.Proofs.Text.Stored
import UnsafeCensus.Proofs.Scan.Placement
import UnsafeCensus.Proofs.Scan.Agreement
import UnsafeCensus.Proofs.Scan.Coherence
import UnsafeCensus.Proofs.Scan.Usability
import UnsafeCensus.Proofs.Value.Table
import UnsafeCensus.Proofs.Fault.Sequence
import UnsafeCensus.Proofs.Toml.Names
import UnsafeCensus.Proofs.Settings.Values
import UnsafeCensus.Proofs.Settings.Files
import UnsafeCensus.Proofs.Settings.Layers
import UnsafeCensus.Proofs.Settings.Precedence
import UnsafeCensus.Proofs.Settings.Reporting
import UnsafeCensus.Proofs.Settings.Culprit
import UnsafeCensus.Proofs.Files.Content
import UnsafeCensus.Proofs.Files.Opening
import UnsafeCensus.Proofs.Journal.Emission
import UnsafeCensus.Proofs.Journal.Changes
import UnsafeCensus.Proofs.Journal.SetUp
import UnsafeCensus.Proofs.Journal.Lineage
import UnsafeCensus.Proofs.Journal.Course
import UnsafeCensus.Proofs.Journal.Lines
import UnsafeCensus.Proofs.Journal.Routing
import UnsafeCensus.Proofs.Text.Blank
import UnsafeCensus.Proofs.Attribute.Splitting
import UnsafeCensus.Proofs.Attribute.Reading
import UnsafeCensus.Proofs.Attribute.Resplitting
import UnsafeCensus.Proofs.Attribute.Spacing
import UnsafeCensus.Proofs.Attribute.Layout
import UnsafeCensus.Proofs.Attribute.Commented
import UnsafeCensus.Proofs.Files.Order
import UnsafeCensus.Proofs.Files.Below
import UnsafeCensus.Proofs.Files.Search
import UnsafeCensus.Proofs.Files.Finding
import UnsafeCensus.Proofs.Attribute.Runs
import UnsafeCensus.Proofs.Scan.Undecodable
import UnsafeCensus.Proofs.Text.Lines
import UnsafeCensus.Proofs.Text.Replacement
import UnsafeCensus.Proofs.Failure.Snippet
