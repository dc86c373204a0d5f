import FilterLang.Catalog
import FilterLang.Catalog.Document
import FilterLang.Check.Fields
import FilterLang.Check.Misspelling
import FilterLang.Check.Operators
import FilterLang.Check.Parentheses
import FilterLang.Check.Report
import FilterLang.Check.Shape
import FilterLang.Check.Structure
import FilterLang.Check.Values
import FilterLang.Command
import FilterLang.Command.Arguments
import FilterLang.Command.Run
import FilterLang.Decimal.Fixed
import FilterLang.Decimal.Notation
import FilterLang.Decimal.Precision
import FilterLang.Decimal.Shortest
import FilterLang.Diff
import FilterLang.Diff.MiddleSnake
import FilterLang.Diff.Shift
import FilterLang.Diff.Shortest
import FilterLang.Display.Difference
import FilterLang.Display.Listing
import FilterLang.Display.Marker
import FilterLang.Display.Report
import FilterLang.Display.Update
import FilterLang.EditDistance
import FilterLang.Expression
import FilterLang.Folder
import FilterLang.Json
import FilterLang.Json.Decode
import FilterLang.Json.Numeral
import FilterLang.Json.Reader
import FilterLang.Json.Relaxed
import FilterLang.Json.Strict
import FilterLang.Keyword
import FilterLang.Main
import FilterLang.Pattern
import FilterLang.Pattern.Automaton
import FilterLang.Pattern.Automaton.Draft
import FilterLang.Pattern.Automaton.WordTree
import FilterLang.Pattern.Class
import FilterLang.Pattern.Escape
import FilterLang.Pattern.Meaning
import FilterLang.Pattern.Property
import FilterLang.Pattern.Reader
import FilterLang.Pattern.Term
import FilterLang.Pattern.Verdict
import FilterLang.Record
import FilterLang.Server.Answer
import FilterLang.Server.Calls
import FilterLang.Server.Failure
import FilterLang.Session
import FilterLang.Session.EditLoop
import FilterLang.Session.Timeline
import FilterLang.Settings
import FilterLang.Settings.File
import FilterLang.Suggestion
import FilterLang.Terminal.Style
import FilterLang.Terminal.Table
import FilterLang.Terminal.Width
import FilterLang.Terminal.WidthTable
import FilterLang.Text.Alphabetic
import FilterLang.Text.Ascii
import FilterLang.Text.Blank
import FilterLang.Text.ByteChain
import FilterLang.Text.Bytes
import FilterLang.Text.CaseRun
import FilterLang.Text.CodeSet
import FilterLang.Text.CodeSet.Algebra
import FilterLang.Text.CodeSet.Table
import FilterLang.Text.Debug
import FilterLang.Text.Letter
import FilterLang.Text.Lines
import FilterLang.Text.Lowercase
import FilterLang.Text.Replacement
import FilterLang.Text.Uppercase
import FilterLang.Text.WordChar
import FilterLang.Token
import FilterLang.Token.Document
import FilterLang.Token.Lexer
import FilterLang.Toml
import FilterLang.Toml.Quoted
import FilterLang.Toml.Reader
import FilterLang.Toml.Scalar
import FilterLang.Tree
import FilterLang.Tree.Document
import FilterLang.Tree.Render
import FilterLang.Unicode.Age
import FilterLang.Unicode.Break
import FilterLang.Unicode.CaseFold
import FilterLang.Unicode.Category
import FilterLang.Unicode.CombiningClass
import FilterLang.Unicode.Composition
import FilterLang.Unicode.NormalForm
import FilterLang.Unicode.Script
import FilterLang.Unicode.ScriptExtension
import FilterLang.Unicode.Truth
import FilterLang.Url
import FilterLang.Url.Domain
import FilterLang.Url.Domain.Character
import FilterLang.Url.Domain.Replaced
import FilterLang.Url.Escape
import FilterLang.Url.Host
import FilterLang.Url.Path
import FilterLang.Url.Punycode
import FilterLang.Url.Scheme
import FilterLang.Validation
import FilterLang.Proofs.Cutting
import FilterLang.Proofs.Tiling
import FilterLang.Proofs.Grammar
import FilterLang.Proofs.Reading
import FilterLang.Proofs.RoundTrip
import FilterLang.Proofs.Balance
import FilterLang.Proofs.Shapes
import FilterLang.Proofs.Agreement
import FilterLang.Proofs.Interleaving
import FilterLang.Proofs.Canonical
import FilterLang.Proofs.Leaves
import FilterLang.Proofs.Beginning
import FilterLang.Proofs.Blame
import FilterLang.Proofs.Spelling
import FilterLang.Proofs.Dialects
import FilterLang.Proofs.NodeDocuments
import FilterLang.Proofs.Stored
import FilterLang.Proofs.Loading
import FilterLang.Proofs.Stages
import FilterLang.Proofs.Misreading
import FilterLang.Proofs.Hidden
import FilterLang.Proofs.Matching
import FilterLang.Proofs.Schedule
import FilterLang.Proofs.Outcome
import FilterLang.Proofs.Findings
import FilterLang.Proofs.Phases
import FilterLang.Proofs.Marks
import FilterLang.Proofs.Boundaries
import FilterLang.Proofs.Consistency
import FilterLang.Proofs.Verdicts
import FilterLang.Proofs.Replacing
import FilterLang.Proofs.Expectations
import FilterLang.Proofs.Priority
import FilterLang.Proofs.Corrections
import FilterLang.Proofs.Resolution
import FilterLang.Proofs.Closing
import FilterLang.Proofs.UnknownOperators
import FilterLang.Proofs.Transcript
import FilterLang.Proofs.Scanning
import FilterLang.Proofs.Columns
import FilterLang.Proofs.Catalogs
import FilterLang.Proofs.Entries
