import DocQuery.Command.Arguments
import DocQuery.Command.Basic
import DocQuery.Command.Line
import DocQuery.Compile.Basic
import DocQuery.Compile.Cache
import DocQuery.Compile.Compiler
import DocQuery.Compile.Digest
import DocQuery.Compile.Fingerprint
import DocQuery.Context.Basic
import DocQuery.Context.Table
import DocQuery.Evaluation.Error
import DocQuery.Evaluation.Expression
import DocQuery.Evaluation.Filter
import DocQuery.Evaluation.Function
import DocQuery.Evaluation.Stage
import DocQuery.Lowering.Condition
import DocQuery.Lowering.Constant
import DocQuery.Lowering.Path
import DocQuery.Lowering.Statement
import DocQuery.Lowering.Unsupported
import DocQuery.Lowering.Value
import DocQuery.Main
import DocQuery.Number.Binary64
import DocQuery.Number.Decimal
import DocQuery.Number.Layout
import DocQuery.Number.Numeral
import DocQuery.Number.Quotient
import DocQuery.Number.Rounding
import DocQuery.Number.Shortest
import DocQuery.Pipeline.Argument
import DocQuery.Pipeline.Equality
import DocQuery.Pipeline.Expression
import DocQuery.Pipeline.Filter
import DocQuery.Pipeline.Kind
import DocQuery.Pipeline.Nodes
import DocQuery.Pipeline.ReadSet
import DocQuery.Pipeline.Rendering
import DocQuery.Pipeline.Stage
import DocQuery.Proofs.Command.Syntax
import DocQuery.Proofs.Compile.Cache
import DocQuery.Proofs.Compile.Compiler
import DocQuery.Proofs.Compile.Fingerprint
import DocQuery.Proofs.Compile.Requests
import DocQuery.Proofs.Evaluation.AddedFields
import DocQuery.Proofs.Evaluation.Exclusion
import DocQuery.Proofs.Evaluation.Expression
import DocQuery.Proofs.Evaluation.Filter
import DocQuery.Proofs.Evaluation.Flattening
import DocQuery.Proofs.Evaluation.Grouping
import DocQuery.Proofs.Evaluation.Integer
import DocQuery.Proofs.Evaluation.LargeInteger
import DocQuery.Proofs.Evaluation.Partition
import DocQuery.Proofs.Evaluation.Projection
import DocQuery.Proofs.Evaluation.Reads
import DocQuery.Proofs.Evaluation.Single
import DocQuery.Proofs.Evaluation.Sorting
import DocQuery.Proofs.Evaluation.Sum
import DocQuery.Proofs.Evaluation.Unwinding
import DocQuery.Proofs.Lowering.Comparison
import DocQuery.Proofs.Lowering.Condition
import DocQuery.Proofs.Lowering.Constant
import DocQuery.Proofs.Lowering.FieldComparison
import DocQuery.Proofs.Lowering.Induction
import DocQuery.Proofs.Lowering.Mask
import DocQuery.Proofs.Lowering.Path
import DocQuery.Proofs.Lowering.Projection
import DocQuery.Proofs.Lowering.Target
import DocQuery.Proofs.Lowering.Test
import DocQuery.Proofs.Lowering.Text
import DocQuery.Proofs.Lowering.Unfolding
import DocQuery.Proofs.Lowering.WellFormed
import DocQuery.Proofs.Names.Element
import DocQuery.Proofs.Names.Lowered
import DocQuery.Proofs.Names.Resolved
import DocQuery.Proofs.Number.Binary64
import DocQuery.Proofs.Number.Integer
import DocQuery.Proofs.Number.Large
import DocQuery.Proofs.Number.Nearest
import DocQuery.Proofs.Number.Print
import DocQuery.Proofs.Number.Shortest
import DocQuery.Proofs.Outcome
import DocQuery.Proofs.Pipeline.Children
import DocQuery.Proofs.Pipeline.Construction
import DocQuery.Proofs.Pipeline.Equality
import DocQuery.Proofs.Pipeline.Induction
import DocQuery.Proofs.Pipeline.ReadSet
import DocQuery.Proofs.Pipeline.WellFormed
import DocQuery.Proofs.Query.Accepted
import DocQuery.Proofs.Query.Completeness
import DocQuery.Proofs.Query.Dispatch
import DocQuery.Proofs.Query.Grammar
import DocQuery.Proofs.Query.Literals
import DocQuery.Proofs.Query.Position
import DocQuery.Proofs.Query.Printed
import DocQuery.Proofs.Query.ReadBack
import DocQuery.Proofs.Query.Reading
import DocQuery.Proofs.Query.Scan
import DocQuery.Proofs.Query.Shown
import DocQuery.Proofs.Query.Simulation
import DocQuery.Proofs.Query.Soundness
import DocQuery.Proofs.Query.Spaced
import DocQuery.Proofs.Query.Spelling
import DocQuery.Proofs.Query.Text
import DocQuery.Proofs.Regex.Escape
import DocQuery.Proofs.Regex.Reader
import DocQuery.Proofs.Regex.Repetition
import DocQuery.Proofs.Regex.Search
import DocQuery.Proofs.Regex.Spans
import DocQuery.Proofs.Rendering.Expression
import DocQuery.Proofs.Rendering.Filter
import DocQuery.Proofs.Rendering.Keys
import DocQuery.Proofs.Rendering.Pipeline
import DocQuery.Proofs.Rendering.Projection
import DocQuery.Proofs.Revision.Coalesced
import DocQuery.Proofs.Revision.Computation
import DocQuery.Proofs.Revision.Congruence
import DocQuery.Proofs.Revision.Kept
import DocQuery.Proofs.Revision.Merged
import DocQuery.Proofs.Revision.Named
import DocQuery.Proofs.Revision.NormalForm
import DocQuery.Proofs.Revision.Reads
import DocQuery.Proofs.Revision.Rebuilt
import DocQuery.Proofs.Revision.Rewriting
import DocQuery.Proofs.Revision.Selection
import DocQuery.Proofs.Revision.Sharing
import DocQuery.Proofs.Revision.Shrinking
import DocQuery.Proofs.Revision.Simplified
import DocQuery.Proofs.Revision.Steps
import DocQuery.Proofs.Revision.Traversal
import DocQuery.Proofs.Revision.WellFormed
import DocQuery.Proofs.Value.Assignment
import DocQuery.Proofs.Value.Atoms
import DocQuery.Proofs.Value.Order
import DocQuery.Proofs.Value.Path
import DocQuery.Proofs.Value.Preorder
import DocQuery.Proofs.Value.Removal
import DocQuery.Proofs.Value.Shell
import DocQuery.Proofs.Variables.Compiled
import DocQuery.Proofs.Variables.Evaluation
import DocQuery.Proofs.Variables.Lowering
import DocQuery.Proofs.Variables.Revision
import DocQuery.Query.Expr
import DocQuery.Query.Lexer
import DocQuery.Query.Parser
import DocQuery.Query.Statement
import DocQuery.Query.Token
import DocQuery.Regex.Category
import DocQuery.Regex.CharSet
import DocQuery.Regex.Compile
import DocQuery.Regex.Escape
import DocQuery.Regex.Machine
import DocQuery.Regex.Normal
import DocQuery.Regex.Pattern
import DocQuery.Regex.Property
import DocQuery.Regex.Property.Binary
import DocQuery.Regex.Property.Break
import DocQuery.Regex.Reader
import DocQuery.Regex.Reader.Brackets
import DocQuery.Regex.Reader.Escape
import DocQuery.Regex.Reader.Flags
import DocQuery.Regex.Search
import DocQuery.Regex.Utf8
import DocQuery.Revision.Coalesce
import DocQuery.Revision.Rename
import DocQuery.Revision.Revised
import DocQuery.Revision.Reviser
import DocQuery.Revision.Simplify
import DocQuery.Text.Alphabetic
import DocQuery.Text.Blank
import DocQuery.Text.Case
import DocQuery.Text.CaseGroups
import DocQuery.Text.CaseTable
import DocQuery.Text.Category
import DocQuery.Text.Category.Letter
import DocQuery.Text.Category.Mark
import DocQuery.Text.Category.Number
import DocQuery.Text.Category.Punctuation
import DocQuery.Text.Category.Symbol
import DocQuery.Text.Edition
import DocQuery.Text.Name
import DocQuery.Text.Newest
import DocQuery.Text.Printable
import DocQuery.Text.Property.Break
import DocQuery.Text.Property.Emoji
import DocQuery.Text.Property.Letter
import DocQuery.Text.Property.Sign
import DocQuery.Text.Quoted
import DocQuery.Text.Ranges
import DocQuery.Text.Script
import DocQuery.Text.Split
import DocQuery.Value.Basic
import DocQuery.Value.Dialect
import DocQuery.Value.Json
import DocQuery.Value.Order
import DocQuery.Value.Path
import DocQuery.Value.Shell
