import GuardedCnf.Calendar
import GuardedCnf.Clause
import GuardedCnf.Cnf
import GuardedCnf.Dimacs.Reader
import GuardedCnf.Dimacs.Writer
import GuardedCnf.Distribution
import GuardedCnf.Encoding
import GuardedCnf.EncodingError
import GuardedCnf.Enumeration
import GuardedCnf.Expression.Basic
import GuardedCnf.Expression.Reader
import GuardedCnf.Expression.Token
import GuardedCnf.FileError
import GuardedCnf.Format.Basic
import GuardedCnf.Format.Clauses
import GuardedCnf.Format.Registry
import GuardedCnf.Format.Text
import GuardedCnf.Formula
import GuardedCnf.Host
import GuardedCnf.Host.Standard
import GuardedCnf.Host.Tree
import GuardedCnf.Json
import GuardedCnf.Literal
import GuardedCnf.Main
import GuardedCnf.Model
import GuardedCnf.Options
import GuardedCnf.Packed
import GuardedCnf.Path
import GuardedCnf.Program
import GuardedCnf.Proofs.AcceptedInputs
import GuardedCnf.Proofs.Allocation
import GuardedCnf.Proofs.Assumptions
import GuardedCnf.Proofs.CheckedModels
import GuardedCnf.Proofs.ClauseInputs
import GuardedCnf.Proofs.CounterReports
import GuardedCnf.Proofs.Counting
import GuardedCnf.Proofs.CountingOn
import GuardedCnf.Proofs.Courses
import GuardedCnf.Proofs.CrossProducts
import GuardedCnf.Proofs.Declarations
import GuardedCnf.Proofs.DimacsFiles
import GuardedCnf.Proofs.Distribution
import GuardedCnf.Proofs.Dumps
import GuardedCnf.Proofs.Enumeration
import GuardedCnf.Proofs.Failures
import GuardedCnf.Proofs.FirstModels
import GuardedCnf.Proofs.Histories
import GuardedCnf.Proofs.HostRuns
import GuardedCnf.Proofs.KeptLines
import GuardedCnf.Proofs.LineByLine
import GuardedCnf.Proofs.LineMeanings
import GuardedCnf.Proofs.Mergers
import GuardedCnf.Proofs.ModelCounts
import GuardedCnf.Proofs.NameSearches
import GuardedCnf.Proofs.Nesting
import GuardedCnf.Proofs.NormalForms
import GuardedCnf.Proofs.Numbering
import GuardedCnf.Proofs.Offsets
import GuardedCnf.Proofs.Printing
import GuardedCnf.Proofs.Redistribution
import GuardedCnf.Proofs.Runs
import GuardedCnf.Proofs.Search
import GuardedCnf.Proofs.Selectors
import GuardedCnf.Proofs.Simplification
import GuardedCnf.Proofs.Sizes
import GuardedCnf.Proofs.SolverReports
import GuardedCnf.Proofs.SparedFiles
import GuardedCnf.Proofs.StreamEnds
import GuardedCnf.Proofs.TextLines
import GuardedCnf.Proofs.TextRuns
import GuardedCnf.Proofs.ToolAnswers
import GuardedCnf.Report.Count
import GuardedCnf.Report.Verdict
import GuardedCnf.Run
import GuardedCnf.Script.Basic
import GuardedCnf.Script.Brace
import GuardedCnf.Script.Builtin
import GuardedCnf.Script.CharSet
import GuardedCnf.Script.Checking
import GuardedCnf.Script.Condition
import GuardedCnf.Script.Declaration
import GuardedCnf.Script.Evaluation
import GuardedCnf.Script.Expansion
import GuardedCnf.Script.Glyph
import GuardedCnf.Script.Launcher
import GuardedCnf.Script.Lookup
import GuardedCnf.Script.Places
import GuardedCnf.Script.Printing
import GuardedCnf.Script.Process
import GuardedCnf.Script.Quoting
import GuardedCnf.Script.Reader
import GuardedCnf.Script.Redirection
import GuardedCnf.Script.Running
import GuardedCnf.Script.Setting
import GuardedCnf.Script.Shell
import GuardedCnf.Script.Sum
import GuardedCnf.Script.Token
import GuardedCnf.Script.Treatment
import GuardedCnf.Search
import GuardedCnf.Session
import GuardedCnf.Statistics
import GuardedCnf.Tail
import GuardedCnf.Text.Blank
import GuardedCnf.Text.Decimal
import GuardedCnf.Text.Lines
import GuardedCnf.Text.Octets
import GuardedCnf.Text.Quoted
import GuardedCnf.Text.Unprintable
import GuardedCnf.Text.Utf8
import GuardedCnf.Tool
import GuardedCnf.Utility.Arguments
import GuardedCnf.Utility.Awk.Pattern
import GuardedCnf.Utility.Awk.Program
import GuardedCnf.Utility.Awk.Random
import GuardedCnf.Utility.Awk.Run
import GuardedCnf.Utility.Awk.State
import GuardedCnf.Utility.Awk.Table
import GuardedCnf.Utility.Awk.Token
import GuardedCnf.Utility.Awk.Value
import GuardedCnf.Utility.Basic
import GuardedCnf.Utility.Columns
import GuardedCnf.Utility.Comparison
import GuardedCnf.Utility.Copying
import GuardedCnf.Utility.Counting
import GuardedCnf.Utility.Date
import GuardedCnf.Utility.Difference.Change
import GuardedCnf.Utility.Difference.Layout
import GuardedCnf.Utility.Difference.Match
import GuardedCnf.Utility.Difference.Run
import GuardedCnf.Utility.Dump
import GuardedCnf.Utility.Expr
import GuardedCnf.Utility.Files
import GuardedCnf.Utility.Find
import GuardedCnf.Utility.Grep.Run
import GuardedCnf.Utility.Grep.Search
import GuardedCnf.Utility.Listing
import GuardedCnf.Utility.Numbering
import GuardedCnf.Utility.Pairing
import GuardedCnf.Utility.Portion
import GuardedCnf.Utility.Regex
import GuardedCnf.Utility.Regex.Plain
import GuardedCnf.Utility.Regex.Rich
import GuardedCnf.Utility.Repeats
import GuardedCnf.Utility.Reversal
import GuardedCnf.Utility.Saying
import GuardedCnf.Utility.Sed.Program
import GuardedCnf.Utility.Sed.Run
import GuardedCnf.Utility.Sequence
import GuardedCnf.Utility.Sorting
import GuardedCnf.Utility.Starting
import GuardedCnf.Utility.System
import GuardedCnf.Utility.Tabs
import GuardedCnf.Utility.Translation
import GuardedCnf.Utility.Version
import GuardedCnf.VariableMap
