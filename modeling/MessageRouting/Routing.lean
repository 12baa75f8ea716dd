import MessageRouting.Condition.Evaluation
import MessageRouting.Metrics
import MessageRouting.Rule
import MessageRouting.Trace

/-!
# Routing

A run looks for the first rule whose conditions hold, in descending order of priority, and tries its
transform. `route` gives the result with the trace of all that was done. The rules of one priority
are tried in the order in which they are given. `routeAlong` is a run with an evaluator that changes
on the way: each condition that is evaluated takes one moment of its course, and the transform the
moment after them.

The steps of the trace show a copy of the payload, which is made after the search. `runAlong` is a
run with the copy: it gives what `routeAlong` says, unless the payload cannot be copied.
-/

namespace MessageRouting

open Expression

/-- The result of a run. -/
structure RunResult where
  /-- The name of the rule that was found. -/
  ruleName : Option String
  /-- Where the message goes. -/
  destination : Option String
  /-- What the transform gave; null if none was applied. -/
  transformed : Value
  /-- Whether a transform succeeded. -/
  transformApplied : Bool
  /-- What was done. -/
  trace : List Step
  /-- Errors and warnings. -/
  issues : List Issue
deriving Inhabited

/-- A result, with what was logged and counted on the way. -/
structure Run where
  /-- The result. -/
  result : RunResult
  /-- The events, in their order. -/
  log : List Log.Event
  /-- What was counted, but for the run itself. -/
  measured : List Measurement
deriving Inhabited

/-- A run that was broken off, with what was logged and counted until then. -/
structure Halt where
  /-- What broke it off. -/
  fault : Fault
  /-- The events, in their order. -/
  log : List Log.Event
  /-- What was counted. -/
  measured : List Measurement

/-- What the examination of a rule gave. -/
structure Examination where
  /-- Whether its conditions hold. -/
  matched : Bool
  /-- What became of each condition. -/
  entries : List ConditionEntry
  /-- The warnings of the conditions. -/
  issues : List Issue
  /-- The events, in their order. -/
  log : List Log.Event
  /-- What was counted. -/
  measured : List Measurement

/-- Where a message goes. -/
structure Route where
  /-- The name of the rule. -/
  ruleName : Option String
  /-- The destination. -/
  destination : Option String
  /-- The expression of a transform that is to be applied. -/
  expression : Option Value

namespace RunResult

/-- Whether a rule was found. -/
def matched (r : RunResult) : Bool := r.ruleName.isSome

/-- Whether a transform was tried. -/
def transformTried (r : RunResult) : Bool := r.trace.any fun s => s.kind = .transform

/-- The timings of a run from the laps of a clock: a transform that was not tried takes no time,
and the whole is never less than its parts. -/
def timings (r : RunResult) (matching transform total : Nat) : Timings :=
  let transform := if r.transformTried then transform else 0
  { total := .ofInt (max total (matching + transform)), matching := .ofInt matching
    transform := .ofInt transform }

end RunResult

namespace Run

/-- All that was counted in a run that took some seconds. -/
def measurements (r : Run) (seconds : Binary64) : List Measurement :=
  r.measured ++ [.run r.result.matched seconds]

end Run

/-- Counts a run that took some seconds. -/
def Metrics.recordRun (m : Metrics) (r : Run) (seconds : Binary64) : Metrics :=
  (r.measurements seconds).foldl record m

/-- Counts a run that took some seconds, or what was counted before it was broken off. -/
def Metrics.recordAnswer (m : Metrics) (answer : Except Halt Run) (seconds : Binary64) : Metrics :=
  match answer with
  | .ok r => m.recordRun r seconds
  | .error h => h.measured.foldl record m

namespace Routing

/-! ## Examining rules -/

/-- The rules that take part, by descending priority; those of one priority keep their order. -/
def candidates (rules : List Rule) : List Rule :=
  (rules.filter (·.enabled)).mergeSort fun a b => b.priority ≤ a.priority

/-- The path or expression of a condition. -/
def target : Condition → Option String
  | .field _ path _ _ => path
  | .expression text => some text

/-- The name of the operator of a condition. -/
def operatorName : Condition → Option String
  | .field _ _ operator _ => some operator.name
  | .expression _ => none

/-- The entry of a condition in the trace. -/
def entry (index : Nat) (c : Condition) (f : Finding) : ConditionEntry where
  index := index
  tag := c.tag
  target := target c
  operator := operatorName c
  matched := f.matched
  issue := f.issue.map (·.message)

section

variable [Interpreter]

/-- Examines a rule. All its conditions are evaluated, also when the first of them decides. -/
def examine (evs : Course) (m : Message) (r : Rule) : Examination :=
  let appraised := r.conditions.mapIdx fun i c => (c, c.evaluate (evs i) m)
  { matched := r.combination.holds (appraised.map fun a => a.2.finding.matched)
    entries := appraised.mapIdx fun i a => entry i a.1 a.2.finding
    issues := appraised.filterMap fun a => a.2.finding.issue
    log := appraised.flatMap fun a => a.2.log
    measured := appraised.map fun a => .condition a.1.tag a.2.finding.matched }

/-- Examines rules up to the first one whose conditions hold. -/
def search (evs : Course) (m : Message) : List Rule → List (Rule × Examination) × Option Rule
  | [] => ([], none)
  | r :: rs =>
    let e := examine evs m r
    if e.matched then ([(r, e)], some r)
    else
      let (examined, found) := search (evs.after r.conditions.length) m rs
      ((r, e) :: examined, found)

end

/-- How many conditions some rules have. -/
def conditionCount (rules : List Rule) : Nat := (rules.flatMap (·.conditions)).length

/-! ## Steps -/

/-- The summary of a condition step. -/
def conditionSummary (count : Nat) (ruleName combination : String) (matched : Bool) : String :=
  "Evaluated " ++ toString count ++ " condition(s) of rule '" ++ ruleName ++ "' (" ++ combination ++
    "): " ++ if matched then "matched" else "not matched"

/-- The step of a rule that was examined. -/
def conditionStep (number : Nat) (ruleName : Option String) (summary : String) (e : Examination) :
    Step where
  number := number
  kind := .condition
  description := summary
  ruleName := ruleName
  input := .null
  output := .bool e.matched
  entries := e.entries
  success := e.matched
  error := none

/-- The step of an examined rule at a position. -/
def ruleStep (index : Nat) (r : Rule) (e : Examination) : Step :=
  conditionStep (index + 1) (some r.name)
    (conditionSummary e.entries.length r.name r.combination.name e.matched) e

/-- The step of the route. -/
def routeStep (number : Nat) (payload : Value) : Option Route → Step
  | some route =>
    { number := number, kind := .route
      description := "Matched route: " ++ route.ruleName.getD "None", ruleName := route.ruleName
      input := payload, output := Value.textOrNull route.destination, entries := []
      success := true, error := none }
  | none =>
    { number := number, kind := .route, description := "No matching route found", ruleName := none
      input := payload, output := .null, entries := [], success := false, error := none }

/-- The step of a transform that was tried. -/
def transformStep (number : Nat) (ruleName : Option String) (payload : Value) (o : Outcome) :
    Step where
  number := number
  kind := .transform
  description := "Applied JQ transformation"
  ruleName := ruleName
  input := payload
  output := o.output
  entries := []
  success := o.success
  error := o.error

/-! ## Issues and events -/

/-- Where issues of the search for a route arise. -/
def matchingPlace : String := "Route Matching"

/-- The warning that no rule was found. -/
def noMatch : Issue := Issue.warn matchingPlace "No matching route found for the given input" none

/-- The error of a transform that failed. -/
def transformIssue (o : Outcome) : Issue :=
  let message := match o.error with
    | none | some "" => "Transform failed"
    | some e => e
  Issue.fail "JQ Transformation" message o.suggestions.head?

/-- An event of a run. -/
def event (level : Log.Level) (name : String) (details : List (String × Value)) : Log.Event :=
  ⟨level, name, details⟩

/-- The event at the beginning of a run. -/
def startedEvent (ruleCount : Nat) : Log.Event :=
  event .debug "Routing run started" [("rule_count", .nat ruleCount)]

/-- The event that tells the route. -/
def routeEvent (ruleCount : Nat) : Option Route → Log.Event
  | some route =>
    event .info "Route matched" [("rule_name", Value.textOrNull route.ruleName),
      ("destination", Value.textOrNull route.destination)]
  | none => event .info "No route matched" [("rule_count", .nat ruleCount)]

/-- The event at the end of a run. -/
def completedEvent (ruleName : Option String) (issueCount : Nat) : Log.Event :=
  event .info "Routing run completed"
    [("matched_rule", Value.textOrNull ruleName), ("error_count", .nat issueCount)]

/-! ## Runs -/

/-- A transform that was tried. -/
structure Attempt where
  /-- What it gave. -/
  outcome : Outcome
  /-- The events, in their order. -/
  log : List Log.Event

/-- What an answer makes of a transform. An evaluator that raises has failed; the log shows the
expression then. -/
def attemptOf (expression : Value) (answer : Logged Outcome) : Attempt :=
  match answer.reply with
  | .answered o => ⟨o, answer.log⟩
  | .raised f =>
    ⟨.failed (some f.report) [], answer.log ++ [event .error "Expression evaluator raised"
      [("expression", expression), ("error", .text f.message)]]⟩

/-- Tries a transform. -/
def attempt (ev : Evaluator) (expression payload : Value) : Attempt :=
  attemptOf expression (ev.evaluate expression payload)

/-- What the search for a route has recorded. -/
structure Searched where
  /-- The number of rules that were given. -/
  ruleCount : Nat
  /-- The steps of the rules that were examined. -/
  steps : List Step
  /-- Errors and warnings. -/
  issues : List Issue
  /-- The events, in their order. -/
  log : List Log.Event
  /-- What was counted. -/
  measured : List Measurement

/-- Ends a run that found no route, or one without a transform. -/
def finish (s : Searched) (m : Message) (route : Option Route) : Run :=
  let issues := s.issues ++ if route.isSome then [] else [noMatch]
  let ruleName := route.bind (·.ruleName)
  { result :=
      { ruleName := ruleName, destination := route.bind (·.destination), transformed := .null
        transformApplied := false
        trace := s.steps ++ [routeStep (s.steps.length + 1) m.payload route], issues := issues }
    log := s.log ++ [routeEvent s.ruleCount route, completedEvent ruleName issues.length]
    measured := s.measured }

/-- Ends a run that found a route, with a transform that was tried. -/
def finishTransformed (s : Searched) (m : Message) (route : Route) (a : Attempt) : Run :=
  let o := a.outcome
  let n := s.steps.length
  let issues := s.issues ++ if o.success then [] else [transformIssue o]
  { result :=
      { ruleName := route.ruleName, destination := route.destination
        transformed := if o.success then o.output else .null
        transformApplied := o.success
        trace := s.steps ++ [routeStep (n + 1) m.payload (some route),
          transformStep (n + 2) route.ruleName m.payload o]
        issues := issues }
    log := s.log ++ [routeEvent s.ruleCount (some route)] ++ a.log ++
      (if o.success then [] else
        [event .warning "Transform failed"
          [("rule_name", Value.textOrNull route.ruleName), ("error", Value.textOrNull o.error)]]) ++
      [completedEvent route.ruleName issues.length]
    measured := s.measured ++ [.transform o.success] }

/-- Ends a run with the route that was found. -/
def conclude (ev : Evaluator) (s : Searched) (m : Message) (route : Option Route) : Run :=
  match route with
  | none => finish s m none
  | some r =>
    match r.expression with
    | none => finish s m (some r)
    | some e => finishTransformed s m r (attempt ev e m.payload)

/-- The expression of a transform that is to be applied. -/
def enabledExpression (r : Rule) : Option Value :=
  match r.transform with
  | some t => if t.enabled then some (.text t.expression) else none
  | none => none

/-- The route that a rule gives. -/
def routeOf (r : Rule) : Route := ⟨some r.name, some r.destination, enabledExpression r⟩

/-- What the examination of rules has recorded. -/
def searched (ruleCount : Nat) (examined : List (Rule × Examination)) : Searched where
  ruleCount := ruleCount
  steps := examined.mapIdx fun i x => ruleStep i x.1 x.2
  issues := examined.flatMap fun x => x.2.issues
  log := startedEvent ruleCount :: examined.flatMap fun x => x.2.log
  measured := examined.flatMap fun x => x.2.measured

variable [Interpreter]

/-- Copies the payload. -/
def copyPayload (s : Searched) (m : Message) : Except Halt Unit :=
  (Interpreter.copying.enter m.payload.height).mapError fun f => ⟨f, s.log, s.measured⟩

end Routing

variable [Interpreter]

/-- Routes a message with an evaluator that changes on the way. -/
def routeAlong (evs : Course) (rules : List Rule) (m : Message) : Run :=
  let (examined, found) := Routing.search evs m (Routing.candidates rules)
  let ev := evs (Routing.conditionCount (examined.map (·.1)))
  Routing.conclude ev (Routing.searched rules.length examined) m (found.map Routing.routeOf)

/-- Routes a message. -/
def route (ev : Evaluator) (rules : List Rule) (m : Message) : Run :=
  routeAlong (.constant ev) rules m

/-- Routes a message whose payload is copied, with an evaluator that changes on the way. -/
def runAlong (evs : Course) (rules : List Rule) (m : Message) : Except Halt Run := do
  let examined := (Routing.search evs m (Routing.candidates rules)).1
  Routing.copyPayload (Routing.searched rules.length examined) m
  return routeAlong evs rules m

/-- Routes a message whose payload is copied. -/
def runOnce (ev : Evaluator) (rules : List Rule) (m : Message) : Except Halt Run :=
  runAlong (.constant ev) rules m

end MessageRouting
