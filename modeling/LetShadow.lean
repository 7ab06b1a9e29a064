import LetShadow.Check.Session
import LetShadow.CommandLine.Run
import LetShadow.Files.Snapshot
import LetShadow.Main
import LetShadow.Proofs.Group.Direct
import LetShadow.Proofs.Scope.Around
import LetShadow.Proofs.Scope.Search
import LetShadow.Proofs.Check.Contribution
import LetShadow.Proofs.Check.Visit
import LetShadow.Proofs.Check.Offenses
import LetShadow.Proofs.Check.Failure
import LetShadow.Proofs.Check.Session
import LetShadow.Proofs.Sketch.Basic
import LetShadow.Proofs.Sketch.Account
import LetShadow.Proofs.Check.Locality
import LetShadow.Proofs.Check.Part
import LetShadow.Proofs.Check.Lexical
import LetShadow.Proofs.Check.Rows
import LetShadow.Proofs.Traversal
import LetShadow.Proofs.Worklist
import LetShadow.Proofs.Tree.Visits
import LetShadow.Proofs.Conversion.Recursion
import LetShadow.Proofs.Conversion.Steps
import LetShadow.Proofs.Source.Program
import LetShadow.Proofs.Source.Reading
import LetShadow.Proofs.Source.Agreement
import LetShadow.Proofs.Json.Moments
import LetShadow.Proofs.Ruby.Oversized
import LetShadow.Proofs.Files.Outcome
import LetShadow.Proofs.Files.Paths
import LetShadow.Proofs.Files.Below
import LetShadow.Proofs.Files.Listings
import LetShadow.Proofs.Conversion.Outcome
import LetShadow.Proofs.Dump.Shape
import LetShadow.Proofs.Dump.Grammar
import LetShadow.Proofs.Dump.RoundTrip
import LetShadow.Proofs.Dump.Slots
import LetShadow.Proofs.Ruby.Words
import LetShadow.Proofs.Ruby.Spots
import LetShadow.Proofs.Ruby.Blocks
import LetShadow.Proofs.Ruby.Spellings
import LetShadow.Proofs.Ruby.Bytes
import LetShadow.Proofs.Emoji.Tables
import LetShadow.Proofs.Report.Shown
import LetShadow.Proofs.Report.Tags
import LetShadow.Proofs.Report.Plain
import LetShadow.Proofs.Report.Table
import LetShadow.Proofs.Report.Numbers
import LetShadow.Proofs.CommandLine.Runs
import LetShadow.Proofs.CommandLine.Counts
import LetShadow.Proofs.CommandLine.Search
import LetShadow.Proofs.CommandLine.Targets
import LetShadow.Proofs.CommandLine.Formats
import LetShadow.Proofs.Name.Chain
import LetShadow.Proofs.Name.Evaluation
import LetShadow.Proofs.Scope.Parents
import LetShadow.Proofs.Scope.Scan
import LetShadow.Proofs.Check.Questions
import LetShadow.Proofs.Ruby.Delimiters
import LetShadow.Proofs.Ruby.Placement
import LetShadow.Proofs.Ruby.Bindings
import LetShadow.Proofs.Ruby.Computed
import LetShadow.Proofs.Ruby.Statements
import LetShadow.Proofs.Source.Clauses
