import DocExamples.Collector
import DocExamples.Collector.Options
import DocExamples.CommandLine.Command
import DocExamples.CommandLine.Execution
import DocExamples.CommandLine.Report
import DocExamples.Console.Action
import DocExamples.Console.Window
import DocExamples.Console.Written
import DocExamples.Context
import DocExamples.DocTest
import DocExamples.Documentation.Reader
import DocExamples.Documentation.Record
import DocExamples.Documentation.Source
import DocExamples.Example.Expectation
import DocExamples.Example.Extraction
import DocExamples.Example.MethodName
import DocExamples.Example.Verdict
import DocExamples.Files.Path
import DocExamples.Files.Tree
import DocExamples.Json
import DocExamples.Main
import DocExamples.Markup.Reference
import DocExamples.Markup.Reference.FurtherNames
import DocExamples.Markup.Reference.Names
import DocExamples.Markup.Tag
import DocExamples.Markup.Token
import DocExamples.Markup.Tree
import DocExamples.Proofs.Console.Capture
import DocExamples.Proofs.Console.Run
import DocExamples.Proofs.Context.Run
import DocExamples.Proofs.DocTest.Indentation
import DocExamples.Proofs.Effects
import DocExamples.Proofs.Example.Acceptance
import DocExamples.Proofs.Example.Marker
import DocExamples.Proofs.Example.MarkerLine
import DocExamples.Proofs.Script.Beginning
import DocExamples.Proofs.Script.Blanks
import DocExamples.Proofs.Script.Borders
import DocExamples.Proofs.Script.Compilation
import DocExamples.Proofs.Script.Ending
import DocExamples.Proofs.Script.Expressions
import DocExamples.Proofs.Script.LineEnds
import DocExamples.Proofs.Script.Passage
import DocExamples.Proofs.Script.Reading
import DocExamples.Proofs.Script.Scanning
import DocExamples.Proofs.Script.Statements
import DocExamples.Proofs.Script.Stepping
import DocExamples.Proofs.TestModule.Checking
import DocExamples.Proofs.TestModule.Recompilation
import DocExamples.Proofs.Text.Indentation
import DocExamples.Proofs.Text.Lines
import DocExamples.Proofs.Text.Margin
import DocExamples.Proofs.Text.Trim
import DocExamples.Script.Arguments
import DocExamples.Script.Call
import DocExamples.Script.Compile
import DocExamples.Script.Construction
import DocExamples.Script.Display
import DocExamples.Script.ErrorType
import DocExamples.Script.Fault
import DocExamples.Script.Grammar
import DocExamples.Script.Library
import DocExamples.Script.Machine
import DocExamples.Script.Numeral
import DocExamples.Script.Operation
import DocExamples.Script.Program
import DocExamples.Script.Reader
import DocExamples.Script.Run
import DocExamples.Script.Serialization
import DocExamples.Script.Space
import DocExamples.Script.Token
import DocExamples.Script.Value
import DocExamples.Settings
import DocExamples.TestModule.Diagnostic
import DocExamples.TestModule.Generation
import DocExamples.TestModule.Layout
import DocExamples.Text.Basic
import DocExamples.Text.Case
import DocExamples.Text.Class
import DocExamples.Text.Lines
import DocExamples.Text.Margin
import DocExamples.Text.NormalForm
import DocExamples.Text.Number
import DocExamples.Text.Quoted
import DocExamples.Text.Ranges
import DocExamples.Text.Utf8
import DocExamples.Text.Variants
import DocExamples.Toml.Document
import DocExamples.Toml.Fault
import DocExamples.Toml.Scalar
import DocExamples.Toml.Value
import DocExamples.Proofs.DocTest.Run
import DocExamples.Proofs.DocTest.Finding
import DocExamples.Proofs.Script.Literal
import DocExamples.Proofs.Script.Spelling
import DocExamples.Proofs.TestModule.Method
import DocExamples.Proofs.TestModule.Emission
import DocExamples.Proofs.Script.Strings
import DocExamples.Proofs.Script.Running
import DocExamples.Proofs.Script.Comments
import DocExamples.Proofs.DocTest.Annotation
import DocExamples.Proofs.Console.Calls
import DocExamples.Proofs.Markup.Progress
import DocExamples.Proofs.CommandLine.Reports
import DocExamples.Proofs.Markup.Writing
import DocExamples.Proofs.Markup.Building
import DocExamples.Proofs.Documentation.Writing
import DocExamples.Proofs.Markup.LineEnds.Tags
import DocExamples.Proofs.Markup.LineEnds.Tokens
import DocExamples.Proofs.Markup.References
import DocExamples.Proofs.Markup.LineEnds.Trees
import DocExamples.Proofs.DocTest.LineEnds
import DocExamples.Proofs.Documentation.LineEnds
import DocExamples.Proofs.DocTest.Sequence
import DocExamples.Proofs.Enumeration
import DocExamples.Proofs.Markup.Addresses
import DocExamples.Proofs.Example.Extraction
import DocExamples.Proofs.Text.NormalForm
import DocExamples.Proofs.TestModule.Names
import DocExamples.Proofs.TestModule.Members
import DocExamples.Proofs.Markup.Sections
import DocExamples.Proofs.Markup.Weight
import DocExamples.Proofs.Markup.Prose
import DocExamples.Proofs.Documentation.Sections
import DocExamples.Proofs.Text.Class
import DocExamples.Proofs.Example.MethodName
import DocExamples.Proofs.Script.Names
import DocExamples.Proofs.TestModule.Definition
import DocExamples.Proofs.TestModule.Sifting
import DocExamples.Proofs.Settings.Loading
import DocExamples.Proofs.CommandLine.Payload
import DocExamples.Proofs.Text.Utf8
import DocExamples.Proofs.Collector.Agreement
import DocExamples.Proofs.TestModule.Insertion
import DocExamples.Proofs.Text.Splitting
import DocExamples.Proofs.Example.Verdict
import DocExamples.Proofs.Example.MarkerSpan
import DocExamples.Proofs.Text.Crlf
import DocExamples.Proofs.DocTest.Crlf
import DocExamples.Proofs.Text.CommonMargin
import DocExamples.Proofs.TestModule.Numbering
import DocExamples.Proofs.Script.Output.Operations
import DocExamples.Proofs.Script.Output.Calls
import DocExamples.Proofs.Script.Output.Programs
import DocExamples.Proofs.Context.Composition
import DocExamples.Proofs.CommandLine.Printing
import DocExamples.Proofs.Files.Writing
import DocExamples.Proofs.CommandLine.Generation
import DocExamples.Proofs.Text.Lineation
import DocExamples.Proofs.Example.Sections
import DocExamples.Proofs.Collector.ForeignFiles
import DocExamples.Proofs.Collector.Report
import DocExamples.Proofs.Console.Exits
import DocExamples.Proofs.Example.CommentText
