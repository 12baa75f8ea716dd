import MessageRouting.Message.File
import MessageRouting.Report
import MessageRouting.RuleSet.File

/-!
# The command line

Two tools: `simulate` routes a sample message through the rules of a file and prints the trace,
`validate` checks the rules of a file. A tool sees the files by a function and gives what it prints
and how it ends.
-/

namespace MessageRouting.CommandLine

variable [Interpreter]

/-- Why a tool stops in the middle. -/
inductive Failure where
  /-- The rules cannot be read. -/
  | rules (f : RuleSet.FileFault)
  /-- The message cannot be read. -/
  | sample (f : Message.FileFault)
  /-- Something cannot be computed or written. -/
  | data (f : Fault)

/-- How a tool ends. -/
inductive Ending where
  /-- With a status. -/
  | status (code : Nat)
  /-- With a failure. -/
  | failed (f : Failure)

/-- What a tool does. -/
structure Output where
  /-- The lines that it prints. -/
  lines : List String
  /-- How it ends. -/
  ending : Ending

namespace Failure

/-- The wording of a failure. -/
def message : Failure → String
  | rules f => f.message
  | sample f => f.message
  | data f => f.message

/-- The name of the kind of a failure. -/
def name : Failure → String
  | rules f => f.name
  | sample f => f.name
  | data f => f.name

end Failure

namespace Output

/-- All that is printed, as one text. -/
def text (o : Output) : String := String.join (o.lines.map fun line => line ++ "\n")

end Output

/-- How `simulate` is called. -/
def simulateUsage : String := "Usage: python simulate_rules.py <rules-file> <message-file>"

/-- How `validate` is called. -/
def validateUsage : String := "Usage: python validate_rules.py <rules-file>"

/-- The status of a tool that cannot do its work. -/
def unusable : Nat := 2

/-- What a tool that is called in a wrong way does. -/
def usage (line : String) : Output := ⟨[line], .status unusable⟩

/-- What can be read. -/
abbrev Files := String → FileContent

/-- The report on a run. -/
def reportRun (d : Report.Durations) (r : RunResult) : Output :=
  let head := Report.runHead d r
  match Report.payloadLines r with
  | .ok payload => ⟨head ++ payload ++ Report.runTail d r, .status 0⟩
  | .error f => ⟨head, .failed (.data f)⟩

/-- What `simulate` works with: rules and a message. -/
def simulation (files : Files) (rulesFile messageFile : String) :
    Except Failure (RuleSet × Message) := do
  let set ← (RuleSet.ofFile rulesFile (files rulesFile)).mapError .rules
  let m ← (Message.ofFile messageFile (files messageFile)).mapError .sample
  return (set, m)

/-- Routes the message of one file through the rules of another. -/
def simulate (ev : Expression.Evaluator) (d : Report.Durations) (files : Files) :
    List String → Output
  | [rulesFile, messageFile] =>
    match simulation files rulesFile messageFile with
    | .error f => ⟨[], .failed f⟩
    | .ok (set, m) =>
      match runOnce ev set.rules m with
      | .error h => ⟨[], .failed (.data h.fault)⟩
      | .ok r => reportRun d r.result
  | _ => usage simulateUsage

/-- Whether a tool reports a fault of a file itself: the file is not there, or it is no rule set. -/
def isReported (f : RuleSet.FileFault) : Bool :=
  f.name = "FileNotFoundError" || f.name = "ConfigurationError"

/-- Checks the rules of a file. -/
def validate (ev : Expression.Evaluator) (limits : Limits) (files : Files) : List String → Output
  | [rulesFile] =>
    let path := (FilePath.ofString rulesFile).text
    let title := "Validating: " ++ path
    match RuleSet.ofFile path (files rulesFile) with
    | .error f =>
      if isReported f then ⟨[title, "Error: " ++ f.message], .status unusable⟩
      else ⟨[title], .failed (.rules f)⟩
    | .ok set =>
      match Lint.report limits (some ev) set.rules with
      | .error f => ⟨[title], .failed (.data f)⟩
      | .ok r => ⟨title :: Report.ofLint r, .status (if r.valid then 0 else 1)⟩
  | _ => usage validateUsage

end MessageRouting.CommandLine
