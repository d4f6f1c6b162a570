import JavaOutline.Analysis
import JavaOutline.CommandLine.Options
import JavaOutline.CommandLine.Program
import JavaOutline.Data.BinaryFloat
import JavaOutline.Data.Fault
import JavaOutline.Data.Load
import JavaOutline.Data.LooseName
import JavaOutline.Data.Value
import JavaOutline.Entity.Basic
import JavaOutline.Entity.Change
import JavaOutline.Entity.Dump
import JavaOutline.Entity.Load
import JavaOutline.Fact
import JavaOutline.Failure
import JavaOutline.FileTree
import JavaOutline.Header
import JavaOutline.JavaType
import JavaOutline.Journal
import JavaOutline.Level
import JavaOutline.Main
import JavaOutline.Name
import JavaOutline.Proofs.Analysis.Containment
import JavaOutline.Proofs.Analysis.FrozenResult
import JavaOutline.Proofs.Analysis.ReportedLines
import JavaOutline.Proofs.CommandLine.Start
import JavaOutline.Proofs.CommandLine.TreeListing
import JavaOutline.Proofs.Data.Loading
import JavaOutline.Proofs.Data.Reporting
import JavaOutline.Proofs.Entity.RoundTrip
import JavaOutline.Proofs.Entity.TypeSchema
import JavaOutline.Proofs.Entity.TypeText
import JavaOutline.Proofs.Except
import JavaOutline.Proofs.Scope.Commuting
import JavaOutline.Proofs.Scope.Finality
import JavaOutline.Proofs.Scope.Graft
import JavaOutline.Proofs.Scope.History
import JavaOutline.Proofs.Scope.Names
import JavaOutline.Proofs.Scope.Queries
import JavaOutline.Proofs.Scope.Report
import JavaOutline.Proofs.Scope.Sameness
import JavaOutline.Proofs.Scope.Store
import JavaOutline.Proofs.Scope.Walk
import JavaOutline.Proofs.Settings.Environment
import JavaOutline.Proofs.Source.Extraction
import JavaOutline.Proofs.Source.Placement
import JavaOutline.Proofs.Source.Rows
import JavaOutline.Proofs.Source.Tiling
import JavaOutline.Proofs.Syntax.Alike
import JavaOutline.Proofs.Syntax.Listing
import JavaOutline.Proofs.Text.Encoding
import JavaOutline.Proofs.Text.Lines
import JavaOutline.Proofs.Text.PlainNumber
import JavaOutline.Proofs.Text.SettingNumeral
import JavaOutline.Proofs.Traversal.Appending
import JavaOutline.Proofs.Traversal.Changes
import JavaOutline.Proofs.Traversal.Comments
import JavaOutline.Proofs.Traversal.Effects
import JavaOutline.Proofs.Traversal.Failures
import JavaOutline.Proofs.Traversal.FirstFailure
import JavaOutline.Proofs.Traversal.Journal
import JavaOutline.Proofs.Traversal.Likeness
import JavaOutline.Proofs.Traversal.Names
import JavaOutline.Proofs.Traversal.Nesting
import JavaOutline.Proofs.Traversal.Order
import JavaOutline.Proofs.Traversal.Placement
import JavaOutline.Proofs.Traversal.PrintedCalls
import JavaOutline.Proofs.Traversal.PrintedNames
import JavaOutline.Proofs.Traversal.PrintedTypes
import JavaOutline.Proofs.Traversal.Readings
import JavaOutline.Proofs.Traversal.Record
import JavaOutline.Proofs.Traversal.Recursion
import JavaOutline.Proofs.Traversal.Rules
import JavaOutline.Proofs.Traversal.ShownItems
import JavaOutline.Proofs.Traversal.SingleRows
import JavaOutline.Proofs.Traversal.TypeGrammar
import JavaOutline.Proofs.Traversal.Visits
import JavaOutline.Proofs.Tree
import JavaOutline.Scope.Basic
import JavaOutline.Scope.Report
import JavaOutline.Scope.Store
import JavaOutline.Settings.Basic
import JavaOutline.Settings.EnvFile
import JavaOutline.Settings.Environment
import JavaOutline.Source.Lines
import JavaOutline.Source.Span
import JavaOutline.Syntax.Listing
import JavaOutline.Syntax.Node
import JavaOutline.Text.Blank
import JavaOutline.Text.Digit
import JavaOutline.Text.Encoding
import JavaOutline.Text.Letter
import JavaOutline.Text.Newline
import JavaOutline.Text.Numeral
import JavaOutline.Text.Printable
import JavaOutline.Text.Quoted
import JavaOutline.Traversal.Run
import JavaOutline.Traversal.Script
import JavaOutline.Traversal.Types
import JavaOutline.Tree
