import BracketSpacing.Text.Trim
import BracketSpacing.Text.Word
import BracketSpacing.Text.Printable
import BracketSpacing.Text.Lowercase
import BracketSpacing.Text.Quoted
import BracketSpacing.Text.Utf8
import BracketSpacing.Text.LineBreak
import BracketSpacing.Segment.Scan
import BracketSpacing.Bracket
import BracketSpacing.FixedPoint
import BracketSpacing.Placeholder
import BracketSpacing.Normalizer
import BracketSpacing.Path
import BracketSpacing.FileTree.Basic
import BracketSpacing.FileTree.Access
import BracketSpacing.Walk
import BracketSpacing.Settings.Read
import BracketSpacing.Yaml.Scalar
import BracketSpacing.Yaml.Token
import BracketSpacing.Yaml.Node
import BracketSpacing.Yaml.Document
import BracketSpacing.Settings.Load
import BracketSpacing.Run.Basic
import BracketSpacing.Run.Session
import BracketSpacing.Report
import BracketSpacing.Command.Basic
import BracketSpacing.Main
import BracketSpacing.Proofs.Padding
import BracketSpacing.Proofs.Literal
import BracketSpacing.Proofs.Grammar
import BracketSpacing.Proofs.Respacing
import BracketSpacing.Proofs.Sweep
import BracketSpacing.Proofs.Masking
import BracketSpacing.Proofs.Normalization
import BracketSpacing.Proofs.Interior
import BracketSpacing.Proofs.Reference
import BracketSpacing.Proofs.Passes
import BracketSpacing.Proofs.Encoding
import BracketSpacing.Proofs.Contents
import BracketSpacing.Proofs.Naming
import BracketSpacing.Proofs.Listing
import BracketSpacing.Proofs.Itinerary
import BracketSpacing.Proofs.Visits
import BracketSpacing.Proofs.Rewriting
import BracketSpacing.Proofs.Account
import BracketSpacing.Proofs.Effect
import BracketSpacing.Proofs.Agreement
import BracketSpacing.Proofs.Repetition
import BracketSpacing.Proofs.Conservation
import BracketSpacing.Proofs.Formatting
import BracketSpacing.Proofs.Partition
import BracketSpacing.Proofs.Breakdown
import BracketSpacing.Proofs.Endings
import BracketSpacing.Proofs.Sessions
import BracketSpacing.Proofs.TopLevel
import BracketSpacing.Proofs.Growth
import BracketSpacing.Proofs.Footprint
import BracketSpacing.Proofs.Absorption
import BracketSpacing.Proofs.Pairs
import BracketSpacing.Proofs.Repadding
import BracketSpacing.Proofs.Returns
import BracketSpacing.Proofs.LineEnds
import BracketSpacing.Proofs.Margin
import BracketSpacing.Proofs.Traversal
import BracketSpacing.Proofs.Continuation
import BracketSpacing.Proofs.Interpolation
import BracketSpacing.Proofs.Lines
import BracketSpacing.Proofs.Marks
import BracketSpacing.Proofs.Showing
import BracketSpacing.Proofs.Validation
