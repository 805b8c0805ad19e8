import SwiftAudit.Json.Writer
import SwiftAudit.Main
import SwiftAudit.Proofs.Failure.Check
import SwiftAudit.Proofs.Failure.Audit
import SwiftAudit.Proofs.Position.Encoding
import SwiftAudit.Proofs.Position.LineTable
import SwiftAudit.Proofs.Translation.Source
import SwiftAudit.Proofs.Translation.Finding
import SwiftAudit.Proofs.Translation.Statements
import SwiftAudit.Proofs.Translation.Expressions
import SwiftAudit.Proofs.Assoc
import SwiftAudit.Proofs.Translation.Walks
import SwiftAudit.Proofs.Translation.Functions
import SwiftAudit.Proofs.Translation.Attributes
import SwiftAudit.Proofs.Translation.Audit
import SwiftAudit.Proofs.Placement.Rules
import SwiftAudit.Proofs.Position.Lines
import SwiftAudit.Proofs.Placement.Audit
import SwiftAudit.Proofs.Settings.Merge
import SwiftAudit.Proofs.Settings.Union
import SwiftAudit.Proofs.Failure.Loaded
import SwiftAudit.Proofs.Settings.History
import SwiftAudit.Proofs.Settings.Audit
import SwiftAudit.Proofs.Relaxation.Audit
import SwiftAudit.Proofs.Usage.Agreement
import SwiftAudit.Proofs.CommandLine.Verbosity
import SwiftAudit.Proofs.Composition.CommandLine
import SwiftAudit.Proofs.Opening.Audit
import SwiftAudit.Proofs.CommandLine.Atomicity
import SwiftAudit.Proofs.Tree.Ancestors
import SwiftAudit.Proofs.Complexity.Owner
import SwiftAudit.Proofs.Complexity.Counting
import SwiftAudit.Proofs.Number.Integer
import SwiftAudit.Proofs.Lists
import SwiftAudit.Proofs.Settings.Refusal
import SwiftAudit.Proofs.Duplicates.Pairs
import SwiftAudit.Proofs.Usage.Groups
import SwiftAudit.Proofs.Position.Significant
import SwiftAudit.Proofs.Chains.Spans
import SwiftAudit.Proofs.Precedence.Operations
import SwiftAudit.Proofs.Complexity.Length
import SwiftAudit.Proofs.Faults.Outermost
import SwiftAudit.Proofs.Blocks.Unreachable
import SwiftAudit.Proofs.Tree.Pruned
import SwiftAudit.Proofs.Blocks.Comments
import SwiftAudit.Proofs.Layout.Indentation
import SwiftAudit.Proofs.Layout.BlankLines
import SwiftAudit.Proofs.Bindings.Constants
import SwiftAudit.Proofs.Layout.Comments
import SwiftAudit.Proofs.Layout.Policies
import SwiftAudit.Proofs.Closures.Captures
import SwiftAudit.Proofs.Closures.Nested
import SwiftAudit.Proofs.Attributes.Usage
import SwiftAudit.Proofs.Attributes.Labels
import SwiftAudit.Proofs.Attributes.Available
import SwiftAudit.Proofs.Text.Word
import SwiftAudit.Proofs.Attributes.Splitting
import SwiftAudit.Proofs.Literals.Spelling
import SwiftAudit.Proofs.Literals.MagicNumber
import SwiftAudit.Proofs.Number.Rounding
import SwiftAudit.Proofs.Duplicates.Similarity
import SwiftAudit.Proofs.Duplicates.Repetitions
import SwiftAudit.Proofs.Text.Snippet
import SwiftAudit.Proofs.Tree.Stack
import SwiftAudit.Proofs.Tree.Brackets
import SwiftAudit.Proofs.Usage.Occurrences
import SwiftAudit.Proofs.Sorting
import SwiftAudit.Proofs.Report.Sections
import SwiftAudit.Proofs.Report.Counts
