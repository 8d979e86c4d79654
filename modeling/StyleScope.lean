import StyleScope.CommandLine
import StyleScope.Config.Basic
import StyleScope.Config.Comments
import StyleScope.Config.Json
import StyleScope.FileTree
import StyleScope.Glob.Basic
import StyleScope.Glob.Parser
import StyleScope.LineIndex
import StyleScope.Main
import StyleScope.Path
import StyleScope.Pipeline
import StyleScope.Proofs.Scope.Headings
import StyleScope.Proofs.Scope.Reparse
import StyleScope.Proofs.Scope.Rewriting
import StyleScope.Proofs.Scope.Rules
import StyleScope.Proofs.Selector.Cuts
import StyleScope.Proofs.Selector.Marks
import StyleScope.Proofs.Sheet.Bare
import StyleScope.Proofs.Sheet.Faults
import StyleScope.Proofs.Sheet.Forest
import StyleScope.Proofs.Sheet.Groups
import StyleScope.Proofs.Sheet.Growth
import StyleScope.Proofs.Sheet.Headings
import StyleScope.Proofs.Sheet.Nesting
import StyleScope.Proofs.Sheet.Rules
import StyleScope.Proofs.Sheet.Shape
import StyleScope.Proofs.Sheet.Signs
import StyleScope.Proofs.Sheet.Splice
import StyleScope.Proofs.Text.Cut
import StyleScope.Proofs.Text.Trim
import StyleScope.Proofs.Token.Endings
import StyleScope.Proofs.Token.Lexeme
import StyleScope.Proofs.Token.Modes
import StyleScope.Proofs.Token.Moving
import StyleScope.Regex.Basic
import StyleScope.Regex.Class
import StyleScope.Regex.Cost
import StyleScope.Regex.Escape
import StyleScope.Regex.Flags
import StyleScope.Regex.Match
import StyleScope.Regex.Parser
import StyleScope.Regex.Program
import StyleScope.Report.Diagnostic
import StyleScope.Report.JsonText
import StyleScope.Report.Summary
import StyleScope.Run.Basic
import StyleScope.Run.Context
import StyleScope.Run.Outcome
import StyleScope.Scope.Basic
import StyleScope.Scope.Eligibility
import StyleScope.Scope.Namespace
import StyleScope.Scope.Pattern
import StyleScope.Scope.Policy
import StyleScope.Selector.Component
import StyleScope.Selector.List
import StyleScope.Settings
import StyleScope.Sheet.Basic
import StyleScope.Sheet.ParseError
import StyleScope.Sheet.Parser
import StyleScope.Sheet.Prelude
import StyleScope.Sheet.Printer
import StyleScope.Sheet.Statement
import StyleScope.SourceMap
import StyleScope.Span
import StyleScope.Text.Basic
import StyleScope.Text.Blank
import StyleScope.Text.Quoted
import StyleScope.Text.Search
import StyleScope.Tiling
import StyleScope.Token.Basic
import StyleScope.Token.Lexer
import StyleScope.Unicode.CaseFold
import StyleScope.Unicode.Category
import StyleScope.Unicode.CharSet
import StyleScope.Unicode.Property
import StyleScope.Unicode.Ranges
import StyleScope.Unicode.Script
import StyleScope.Proofs.Sheet.Grammar
import StyleScope.Proofs.Sheet.Reports
import StyleScope.Proofs.Sheet.Recovery
import StyleScope.Proofs.Scope.Frame
import StyleScope.Proofs.SourceMap.Cover
import StyleScope.Proofs.Sheet.Provenance
import StyleScope.Proofs.Text.Split
import StyleScope.Proofs.Sheet.Verbatim
import StyleScope.Proofs.Path.Place
import StyleScope.Proofs.FileTree.Walk
import StyleScope.Proofs.FileTree.Directories
import StyleScope.Proofs.FileTree.Writing
import StyleScope.Proofs.FileTree.Listing
import StyleScope.Proofs.Run.Delivery
import StyleScope.Proofs.Run.Scan
import StyleScope.Proofs.Run.Outputs
import StyleScope.Proofs.Glob.Literal
import StyleScope.Proofs.Run.Rerun
import StyleScope.Proofs.CommandLine.Grammar
import StyleScope.Proofs.Settings.Precedence
import StyleScope.Proofs.Token.Partition
import StyleScope.Proofs.Run.Pages
import StyleScope.Proofs.Path.Names
import StyleScope.Proofs.Text.Replace
import StyleScope.Proofs.Run.Piped
import StyleScope.Proofs.Selector.Joining
import StyleScope.Proofs.Text.Gaps
import StyleScope.Proofs.Scope.Alternatives
import StyleScope.Proofs.LineIndex.Positions
import StyleScope.Proofs.Regex.Literal
import StyleScope.Proofs.Scope.Outermost
import StyleScope.Proofs.Scope.Spelling
import StyleScope.Proofs.Scope.Html
import StyleScope.Proofs.Sheet.Places
import StyleScope.Proofs.Text.Lines
import StyleScope.Proofs.Report.Pinpoint
import StyleScope.Proofs.Report.Records
import StyleScope.Proofs.Scope.Template
import StyleScope.Proofs.Config.Grammar
import StyleScope.Proofs.Config.Comments
import StyleScope.Proofs.SourceMap.Lookup
import StyleScope.Proofs.Selector.Components
