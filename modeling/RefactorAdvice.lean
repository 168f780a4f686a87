import RefactorAdvice.Analysis.Basic
import RefactorAdvice.Analysis.File
import RefactorAdvice.Analysis.Run
import RefactorAdvice.Cli.Arguments
import RefactorAdvice.Cli.Run
import RefactorAdvice.Cli.Usage
import RefactorAdvice.Code.Cursor
import RefactorAdvice.Code.Edit
import RefactorAdvice.Code.Escape
import RefactorAdvice.Code.Expr
import RefactorAdvice.Code.Grammar.Expr
import RefactorAdvice.Code.Grammar.Pattern
import RefactorAdvice.Code.Grammar.Stmt
import RefactorAdvice.Code.Grammar.Text
import RefactorAdvice.Code.Likeness
import RefactorAdvice.Code.Metrics
import RefactorAdvice.Code.Numeral
import RefactorAdvice.Code.Render
import RefactorAdvice.Code.Stmt
import RefactorAdvice.Code.Token
import RefactorAdvice.Code.Tree
import RefactorAdvice.Data.Basic
import RefactorAdvice.Data.Moment
import RefactorAdvice.Failure
import RefactorAdvice.Files.Glob
import RefactorAdvice.Files.Path
import RefactorAdvice.Files.Store
import RefactorAdvice.Finding
import RefactorAdvice.Gate.Run
import RefactorAdvice.Gate.Step
import RefactorAdvice.Ini.Document
import RefactorAdvice.Ini.Interpolation
import RefactorAdvice.Json.Reader
import RefactorAdvice.Json.Writer
import RefactorAdvice.Listing
import RefactorAdvice.Log
import RefactorAdvice.Main
import RefactorAdvice.Number.Binary64
import RefactorAdvice.Number.Numeral
import RefactorAdvice.Number.Reading
import RefactorAdvice.Proofs.DuplicateBlocks
import RefactorAdvice.Proofs.DuplicateReports
import RefactorAdvice.Proofs.GateVerdicts
import RefactorAdvice.Proofs.Publishing
import RefactorAdvice.Proofs.SeparateStatements
import RefactorAdvice.Proofs.Silencing
import RefactorAdvice.Proofs.ValidSettings
import RefactorAdvice.Report.Json
import RefactorAdvice.Report.Sink
import RefactorAdvice.Report.Text
import RefactorAdvice.Rounds.Answer
import RefactorAdvice.Rounds.Coverage
import RefactorAdvice.Rounds.History
import RefactorAdvice.Rounds.Run
import RefactorAdvice.Rounds.SelfCheck
import RefactorAdvice.Rounds.Share
import RefactorAdvice.Rule
import RefactorAdvice.Rules.BooleanLogic
import RefactorAdvice.Rules.Comparisons
import RefactorAdvice.Rules.Complexity
import RefactorAdvice.Rules.ContextManager
import RefactorAdvice.Rules.ControlFlow
import RefactorAdvice.Rules.DictOperations
import RefactorAdvice.Rules.Duplication
import RefactorAdvice.Rules.Duplication.Excluded
import RefactorAdvice.Rules.Duplication.Normal
import RefactorAdvice.Rules.Duplication.Piece
import RefactorAdvice.Rules.Examiner
import RefactorAdvice.Rules.Inspector
import RefactorAdvice.Rules.Loops
import RefactorAdvice.Rules.Notice
import RefactorAdvice.Rules.Performance
import RefactorAdvice.Session
import RefactorAdvice.Settings.Basic
import RefactorAdvice.Settings.Coercion
import RefactorAdvice.Settings.Load
import RefactorAdvice.Settings.OfSections
import RefactorAdvice.Settings.OfTable
import RefactorAdvice.Settings.Refusal
import RefactorAdvice.Settings.Written
import RefactorAdvice.Severity
import RefactorAdvice.Suppression
import RefactorAdvice.Text.Blank
import RefactorAdvice.Text.Compatibility
import RefactorAdvice.Text.WordChar
import RefactorAdvice.Text.Identifier
import RefactorAdvice.Text.LetterCase
import RefactorAdvice.Text.Lines
import RefactorAdvice.Text.Printable
import RefactorAdvice.Text.Quoted
import RefactorAdvice.Text.Ranges
import RefactorAdvice.Text.Stream
import RefactorAdvice.Text.Utf8
import RefactorAdvice.Toml.Document
import RefactorAdvice.Toml.Fault
import RefactorAdvice.Toml.Scalar
import RefactorAdvice.Toml.Value
import RefactorAdvice.Version.Basic
import RefactorAdvice.Version.Resource
import RefactorAdvice.Workload.Running
import RefactorAdvice.Workload.Basic
import RefactorAdvice.Workload.Configuring
import RefactorAdvice.Workload.Findings
import RefactorAdvice.Workload.Source
import RefactorAdvice.Workshop
import RefactorAdvice.Proofs.SilencingFilter
import RefactorAdvice.Proofs.PathText
import RefactorAdvice.Proofs.Schedules
import RefactorAdvice.Proofs.Containment
import RefactorAdvice.Proofs.PhysicalLines
import RefactorAdvice.Proofs.ExitCodes
import RefactorAdvice.Proofs.SettingNotations
import RefactorAdvice.Proofs.RefusedFiles
import RefactorAdvice.Proofs.ShownMessages
import RefactorAdvice.Proofs.PrintedReports
import RefactorAdvice.Proofs.ReportAgreement
import RefactorAdvice.Proofs.LosslessReports
import RefactorAdvice.Proofs.Inspector.Moves
import RefactorAdvice.Proofs.Inspector.Walks
import RefactorAdvice.Proofs.Inspector.Searches
import RefactorAdvice.Proofs.Inspector.Histories
import RefactorAdvice.Proofs.CollectedFiles
import RefactorAdvice.Proofs.Positions.Keys
import RefactorAdvice.Proofs.Positions.Reading
import RefactorAdvice.Proofs.Positions.Expressions
import RefactorAdvice.Proofs.Positions.Operators
import RefactorAdvice.Proofs.Positions.Lexemes
import RefactorAdvice.Proofs.Positions.Scanning
import RefactorAdvice.Proofs.Positions.Fields
import RefactorAdvice.Proofs.Positions.Patterns
import RefactorAdvice.Proofs.Positions.Statements
import RefactorAdvice.Proofs.LoopReach
import RefactorAdvice.Proofs.NoticeSubjects
import RefactorAdvice.Proofs.DistinctFindings
import RefactorAdvice.Proofs.LaxerLimits
import RefactorAdvice.Proofs.UnreachedEnds
import RefactorAdvice.Proofs.FollowedPaths
import RefactorAdvice.Proofs.DiscoveredSettings
import RefactorAdvice.Proofs.WalkedFiles
import RefactorAdvice.Proofs.FunctionMeasures
import RefactorAdvice.Proofs.PlacedStatements
import RefactorAdvice.Proofs.StatementReports
import RefactorAdvice.Proofs.LeavingBodies
import RefactorAdvice.Proofs.UnmanagedResources
import RefactorAdvice.Proofs.LineDirectives
import RefactorAdvice.Proofs.ScanLimits
import RefactorAdvice.Proofs.ThresholdIndifference
import RefactorAdvice.Proofs.Addresses
import RefactorAdvice.Proofs.TextScopes
import RefactorAdvice.Proofs.GrownTexts
import RefactorAdvice.Proofs.RepeatedCalls
import RefactorAdvice.Proofs.LengthAdvice
import RefactorAdvice.Proofs.LoopReports
import RefactorAdvice.Proofs.NestedLoops
import RefactorAdvice.Proofs.LoopInvariants
import RefactorAdvice.Proofs.IteratedLookups
import RefactorAdvice.Proofs.AdvisedForms
import RefactorAdvice.Proofs.NegatedTexts
import RefactorAdvice.Proofs.QuotedReplacements
import RefactorAdvice.Proofs.JoinedOperands
import RefactorAdvice.Proofs.CrowdedOperations
import RefactorAdvice.Proofs.GuardedExits
