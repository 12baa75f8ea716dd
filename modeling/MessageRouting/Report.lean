import MessageRouting.Json.Writer
import MessageRouting.Lint

/-!
# Reports

What the command line prints: the trace and the outcome of a run, and the issues of a collection of
rules.
-/

namespace MessageRouting.Report

/-- The texts of the durations in a report. -/
structure Durations where
  /-- A step. -/
  step : Step → String
  /-- The whole run. -/
  total : String
  /-- The search for a route. -/
  matching : String
  /-- The transform. -/
  transform : String

/-- A text with blanks in front up to a least width. -/
def padLeft (width : Nat) (s : String) : String := "".pushn ' ' (width - s.length) ++ s

/-- A text with blanks behind up to a least width. -/
def padRight (width : Nat) (s : String) : String := s.pushn ' ' (width - s.length)

/-- A name, or a remark if there is none. -/
def nameOrNone (name : Option String) : String :=
  match name with
  | none | some "" => "(none)"
  | some s => s

/-- The line of a step. -/
def stepLine (d : Durations) (s : Step) : String :=
  padLeft 3 (toString s.number) ++ (if s.success then " ok " else " -- ") ++
    padRight 9 s.kind.name ++ " " ++ s.description ++ " (" ++ d.step s ++ ")"

/-- The line of an issue. -/
def issueLine (i : Issue) : String :=
  "[" ++ i.severity.name ++ "] " ++ i.context.getD "None" ++ ": " ++ i.message

/-- The line of an issue, with what may help. -/
def hintedLine (i : Issue) : String :=
  "  " ++ issueLine i ++
    match i.suggestion with
    | none | some "" => ""
    | some s => " (hint: " ++ s ++ ")"

/-- The line of the durations. -/
def timingLine (d : Durations) : String :=
  "Timing: total " ++ d.total ++ ", matching " ++ d.matching ++ ", transform " ++ d.transform

/-- The lines of the trace and the outcome of a run. -/
def runHead (d : Durations) (r : RunResult) : List String :=
  r.trace.map (stepLine d) ++ ["", "Matched rule: " ++ nameOrNone r.ruleName,
    "Destination:  " ++ nameOrNone r.destination]

/-- The lines of the transformed payload. -/
def payloadLines [Interpreter] (r : RunResult) : Except Fault (List String) :=
  if r.transformApplied then
    (Json.indented.write r.transformed).map fun cs => ["Payload:", String.ofList cs]
  else .ok []

/-- The lines of the issues and durations of a run. -/
def runTail (d : Durations) (r : RunResult) : List String :=
  r.issues.map issueLine ++ [timingLine d]

/-- The lines of the issues of rules, and what they come to. -/
def ofLint (r : Lint.Report) : List String :=
  r.issues.map hintedLine ++
    [if r.valid then "Rule set is valid (" ++ toString r.warnings.length ++ " warnings)"
      else "Validation failed with " ++ toString r.errors.length ++ " errors"]

end MessageRouting.Report
