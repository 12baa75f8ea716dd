import MessageRouting.Binary64
import MessageRouting.Calendar
import MessageRouting.Case
import MessageRouting.CommandLine
import MessageRouting.Condition
import MessageRouting.Condition.Evaluation
import MessageRouting.Decimal.Digits
import MessageRouting.Decimal.Numeral
import MessageRouting.Decimal.Shortest
import MessageRouting.Draft
import MessageRouting.Draft.Attribute
import MessageRouting.Draft.Lint
import MessageRouting.Draft.Order
import MessageRouting.Draft.Routing
import MessageRouting.EnvFile
import MessageRouting.Expression
import MessageRouting.Expression.Diagnosis
import MessageRouting.Expression.Table
import MessageRouting.Fault
import MessageRouting.FileContent
import MessageRouting.FilePath
import MessageRouting.FileTree
import MessageRouting.History
import MessageRouting.Interpreter
import MessageRouting.Issue
import MessageRouting.Json.Reader
import MessageRouting.Json.Writer
import MessageRouting.Limits
import MessageRouting.Lint
import MessageRouting.Log
import MessageRouting.Main
import MessageRouting.Message
import MessageRouting.Message.File
import MessageRouting.Metrics
import MessageRouting.Pattern.Fault
import MessageRouting.Pattern.Node
import MessageRouting.Pattern.Reader
import MessageRouting.Pattern.Search
import MessageRouting.Proofs.Acceptance
import MessageRouting.Proofs.AtomicSaves
import MessageRouting.Proofs.Candidates
import MessageRouting.Proofs.CanonicalOrder
import MessageRouting.Proofs.CaseReplays
import MessageRouting.Proofs.Comparison
import MessageRouting.Proofs.Containment
import MessageRouting.Proofs.DeadRules
import MessageRouting.Proofs.Descriptions
import MessageRouting.Proofs.DraftFindings
import MessageRouting.Proofs.DraftOrder
import MessageRouting.Proofs.DraftRun
import MessageRouting.Proofs.FaultedRuns
import MessageRouting.Proofs.FileChanges
import MessageRouting.Proofs.FileFaults
import MessageRouting.Proofs.FileTrees
import MessageRouting.Proofs.Findings
import MessageRouting.Proofs.HistoryRuns
import MessageRouting.Proofs.JsonFaults
import MessageRouting.Proofs.JsonRefusals
import MessageRouting.Proofs.JsonRoundTrip
import MessageRouting.Proofs.JsonTokens
import MessageRouting.Proofs.JsonValues
import MessageRouting.Proofs.LintFaults
import MessageRouting.Proofs.LintPositions
import MessageRouting.Proofs.LintReports
import MessageRouting.Proofs.LintSoundness
import MessageRouting.Proofs.LintWarnings
import MessageRouting.Proofs.Literals
import MessageRouting.Proofs.MadeDirectories
import MessageRouting.Proofs.Noninterference
import MessageRouting.Proofs.Outcomes
import MessageRouting.Proofs.PathLookup
import MessageRouting.Proofs.Readings
import MessageRouting.Proofs.Relevance
import MessageRouting.Proofs.RuleCodec
import MessageRouting.Proofs.RuleForm
import MessageRouting.Proofs.Run
import MessageRouting.Proofs.RunCounts
import MessageRouting.Proofs.RunIssues
import MessageRouting.Proofs.RunTrace
import MessageRouting.Proofs.Search
import MessageRouting.Proofs.Selection
import MessageRouting.Proofs.SettingsIsolation
import MessageRouting.Proofs.StoreRuns
import MessageRouting.Proofs.StoredNumbers
import MessageRouting.Proofs.StoredRules
import MessageRouting.Proofs.StoredValues
import MessageRouting.Proofs.TextForm
import MessageRouting.Proofs.UncompiledExpressions
import MessageRouting.Proofs.WorkerRuns
import MessageRouting.Proofs.YamlFaults
import MessageRouting.Proofs.YamlNodes
import MessageRouting.Proofs.YamlReading
import MessageRouting.Query
import MessageRouting.Query.Basic
import MessageRouting.Query.Datum
import MessageRouting.Query.Evaluation
import MessageRouting.Query.Library
import MessageRouting.Query.Reader
import MessageRouting.Query.Results
import MessageRouting.Query.Token
import MessageRouting.Query.Worker
import MessageRouting.Report
import MessageRouting.Routing
import MessageRouting.Rule
import MessageRouting.RuleSet
import MessageRouting.RuleSet.File
import MessageRouting.Schema
import MessageRouting.Schema.Coercion
import MessageRouting.Schema.Entity
import MessageRouting.Settings
import MessageRouting.Settings.Section
import MessageRouting.Simulation
import MessageRouting.Store
import MessageRouting.Store.Codec
import MessageRouting.Text.Alphanumeric
import MessageRouting.Text.Blank
import MessageRouting.Text.CharSet
import MessageRouting.Text.Encoding
import MessageRouting.Text.Lowercase
import MessageRouting.Text.Printable
import MessageRouting.Text.Quoted
import MessageRouting.Text.Substring
import MessageRouting.Trace
import MessageRouting.Value
import MessageRouting.Value.Equality
import MessageRouting.Value.Literal
import MessageRouting.Value.Looped
import MessageRouting.Value.Path
import MessageRouting.Yaml.Document
import MessageRouting.Yaml.Fault
import MessageRouting.Yaml.Lexer
import MessageRouting.Yaml.Node
import MessageRouting.Yaml.Scalar
import MessageRouting.Yaml.Token
