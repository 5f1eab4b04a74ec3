import SpanWeave.Batch
import SpanWeave.Binding
import SpanWeave.CommandLine
import SpanWeave.Config
import SpanWeave.ConfigFile
import SpanWeave.Dialect
import SpanWeave.Diff.Compact
import SpanWeave.Diff.Script
import SpanWeave.Diff.Unified
import SpanWeave.Disk
import SpanWeave.Document
import SpanWeave.Edit
import SpanWeave.Error
import SpanWeave.Ignore.Glob
import SpanWeave.Ignore.Rule
import SpanWeave.ImportSite
import SpanWeave.Main
import SpanWeave.Path
import SpanWeave.Pattern.Basic
import SpanWeave.Pattern.CharClass
import SpanWeave.Pattern.Property
import SpanWeave.Pattern.Reader
import SpanWeave.Pattern.Size
import SpanWeave.Proofs.Binding
import SpanWeave.Proofs.Disk
import SpanWeave.Proofs.Edit.Application
import SpanWeave.Proofs.Edit.Undo
import SpanWeave.Proofs.ImportSite
import SpanWeave.Proofs.SourceFile
import SpanWeave.Proofs.Survey.Origin
import SpanWeave.Proofs.Survey.Outcome
import SpanWeave.Proofs.Survey.Placement
import SpanWeave.Proofs.Survey.Reason
import SpanWeave.Proofs.Syntax.Comment
import SpanWeave.Proofs.Syntax.Nesting
import SpanWeave.Proofs.Config
import SpanWeave.Proofs.Text.LineBreak
import SpanWeave.Proofs.Text.Offset
import SpanWeave.Proofs.Text.Utf8
import SpanWeave.Proofs.Weave.Again
import SpanWeave.Proofs.Weave.Alike
import SpanWeave.Proofs.Weave.Closing
import SpanWeave.Proofs.Weave.Conflict
import SpanWeave.Proofs.Weave.EntryPoint
import SpanWeave.Proofs.Weave.Literals
import SpanWeave.Proofs.Weave.Matching
import SpanWeave.Proofs.Weave.Names
import SpanWeave.Proofs.Weave.Outcome
import SpanWeave.Proofs.Weave.Pairing
import SpanWeave.Proofs.Weave.Rereading
import SpanWeave.Proofs.Weave.Restoration
import SpanWeave.Proofs.Weave.Rewoven
import SpanWeave.Proofs.Weave.Separation
import SpanWeave.Proofs.Weave.Surface
import SpanWeave.Proofs.Wrapper
import SpanWeave.Report.Basic
import SpanWeave.Report.Json
import SpanWeave.Run
import SpanWeave.Skip
import SpanWeave.SourceFile
import SpanWeave.SpanName
import SpanWeave.Survey
import SpanWeave.Syntax.Cursor
import SpanWeave.Syntax.Declarations
import SpanWeave.Syntax.Expressions
import SpanWeave.Syntax.Lexeme
import SpanWeave.Syntax.Literal
import SpanWeave.Syntax.Lookahead
import SpanWeave.Syntax.Markup
import SpanWeave.Syntax.Members
import SpanWeave.Syntax.Modules
import SpanWeave.Syntax.Node
import SpanWeave.Syntax.Parse
import SpanWeave.Syntax.Patterns
import SpanWeave.Syntax.Rule
import SpanWeave.Syntax.Semicolon
import SpanWeave.Syntax.Statements
import SpanWeave.Syntax.Types
import SpanWeave.Target
import SpanWeave.Text.Age
import SpanWeave.Text.Basic
import SpanWeave.Text.Blank
import SpanWeave.Text.Casing
import SpanWeave.Text.Category.Controls
import SpanWeave.Text.Category.Letters
import SpanWeave.Text.Category.Marks
import SpanWeave.Text.Category.Numbers
import SpanWeave.Text.Category.Punctuation
import SpanWeave.Text.Category.Symbols
import SpanWeave.Text.Fold
import SpanWeave.Text.Letter
import SpanWeave.Text.Literal
import SpanWeave.Text.Property
import SpanWeave.Text.Runs
import SpanWeave.Text.Script
import SpanWeave.Text.Segment
import SpanWeave.Text.SharedScript
import SpanWeave.Text.Shown
import SpanWeave.Text.Trait
import SpanWeave.Text.Utf8
import SpanWeave.Toml.Document
import SpanWeave.Toml.Lexeme
import SpanWeave.Toml.Value
import SpanWeave.Walk
import SpanWeave.Weave
import SpanWeave.Wrapper
import SpanWeave.Proofs.WriteBack
import SpanWeave.Proofs.Batch.Schedule
import SpanWeave.Proofs.Batch.DryRun
import SpanWeave.Proofs.Batch.Selection
import SpanWeave.Proofs.Diff.Script
import SpanWeave.Proofs.Diff.Compact
import SpanWeave.Proofs.Diff.Hunks
import SpanWeave.Proofs.Diff.Header
import SpanWeave.Proofs.Diff.Reader
import SpanWeave.Proofs.Diff.Faithful
import SpanWeave.Proofs.Edit.Order
import SpanWeave.Proofs.Edit.Refusal
import SpanWeave.Proofs.Edit.Splicing
import SpanWeave.Proofs.Run.Course
import SpanWeave.Proofs.Run.Account
import SpanWeave.Proofs.Weave.Narrowing
import SpanWeave.Proofs.Syntax.Site
import SpanWeave.Proofs.Survey.Listing
import SpanWeave.Proofs.Survey.Traversal
import SpanWeave.Proofs.Survey.Overload
import SpanWeave.Proofs.Survey.Sprinkling
import SpanWeave.Proofs.Survey.Comments
import SpanWeave.Proofs.Survey.MemberKey
import SpanWeave.Proofs.Import.Place
import SpanWeave.Proofs.Import.Style
import SpanWeave.Proofs.Weave.DefaultExport
import SpanWeave.Proofs.Weave.Scope
import SpanWeave.Proofs.Weave.LineBreaks
import SpanWeave.Proofs.Syntax.Reading
import SpanWeave.Proofs.Syntax.Operand
import SpanWeave.Proofs.Syntax.Word
import SpanWeave.Proofs.Syntax.Arguments
import SpanWeave.Proofs.Syntax.Identifier
import SpanWeave.Proofs.Syntax.NamedCall
import SpanWeave.Proofs.Survey.EntryName
import SpanWeave.Proofs.Indentation
import SpanWeave.Proofs.SpanName
import SpanWeave.Proofs.Text.Quotation
import SpanWeave.Proofs.Weave.Quotation
