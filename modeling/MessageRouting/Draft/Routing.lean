import MessageRouting.Draft.Order
import MessageRouting.Routing

/-!
# Routing with drafts

A run over rules that nothing has checked. A fault while the rules are put in order, examined or
recorded ends the search: the run then answers that no rule was found, with the fault as an error.
A payload that cannot be copied, and what a rule that was found lacks afterwards, make the run
itself fail. As in a run over rules, the evaluator can change on the way.
-/

namespace MessageRouting.Draft

open Expression Routing

/-- Why a run over drafts has no result. -/
inductive RunFault where
  /-- Something cannot be copied, or the found rule lacks it. -/
  | fault (f : Fault)
  /-- A part of the result that does not fit. -/
  | unfit (complaints : List Schema.Complaint)

/-- What the examination of a draft has recorded so far. -/
structure Examined where
  /-- The results of the conditions. -/
  results : List Bool
  /-- What was recorded. -/
  examination : Examination

/-- Nothing recorded yet. -/
def Examined.start : Examined := ⟨[], ⟨false, [], [], [], []⟩⟩

/-- An attribute that has to be there. -/
def needed (kind name : String) : Option Attribute → Except Fault Attribute
  | some a => .ok a
  | none => .error (.noAttribute kind name)

section

variable [Interpreter]

/-- The expression or path of a condition. -/
def target (c : DraftCondition) : Except Fault Attribute := do
  let expression ← c.expression.orNull
  if ← expression.isFilled then return expression else c.path.orNull

/-- The text of an operator in a record; that of nothing is none. -/
def operatorText : Option Attribute → Except Fault (Option String)
  | none => .ok none
  | some o => if o.isNull then .ok none else (o.plainText).map some

/-- The tag of a condition as it is recorded. -/
def tagText (c : DraftCondition) : Except Fault String := do
  match ← c.tag with
  | none => return "unknown"
  | some t => t.plainText

/-- The entry of a condition in the trace. -/
def entry (index : Nat) (tag : String) (c : DraftCondition) (f : Finding) :
    Except Fault ConditionEntry := do
  let operator ← c.operator
  let shown ← target c
  let operator ← operatorText operator
  let target ← shown.recorded "ConditionTrace"
  return ⟨index, tag, target, operator, f.matched, f.issue.map (·.message)⟩

/-- Examines one more condition. What was counted is kept also if the entry cannot be made. -/
def examineCondition (ev : DraftEvaluator) (m : Message) (x : Examined) (c : DraftCondition) :
    Except (Fault × Examination) Examined := do
  let kept (e : Examination) (f : Fault) : Fault × Examination := (f, e)
  let e := x.examination
  let a ← (c.evaluate ev m).mapError (kept e)
  let e := { e with log := e.log ++ a.log }
  let tag ← (tagText c).mapError (kept e)
  let e := { e with
    issues := e.issues ++ a.finding.issue.toList
    measured := e.measured ++ [Measurement.condition tag a.finding.matched] }
  let entry ← (entry e.entries.length tag c a.finding).mapError (kept e)
  return ⟨x.results ++ [a.finding.matched], { e with entries := e.entries ++ [entry] }⟩

/-- Examines conditions one after the other. -/
def examineAll (evs : DraftCourse) (m : Message) :
    Examined → List DraftCondition → Except (Fault × Examination) Examined
  | x, [] => .ok x
  | x, c :: cs => do examineAll evs m (← examineCondition (evs x.results.length) m x c) cs

/-- What the results of conditions come to. -/
def combined (combination : Attribute) (results : List Bool) : Except Fault Bool :=
  if results.isEmpty then .ok true
  else do
    let any ← combination.isText Combination.any.name
    return (if any then Combination.any else .all).holds results

/-- Examines a draft. -/
def examine (evs : DraftCourse) (m : Message) (r : DraftRule) :
    Except (Fault × Examination) Examination := do
  let (cs, ending) := r.conditions.toList
  let x ← examineAll evs m .start cs
  match ending with
  | some f => throw (f, x.examination)
  | none =>
    let matched ← (combined r.combination x.results).mapError fun f => (f, x.examination)
    return { x.examination with matched := matched }

/-- The step of a draft that was examined. -/
def step (number : Nat) (r : DraftRule) (e : Examination) : Except Fault Step := do
  let name ← needed "Rule" "name" r.name
  let shown ← name.plainText
  let combination ← r.combination.plainText
  let ruleName ← name.recorded "TraceStep"
  let summary := conditionSummary e.entries.length shown combination e.matched
  return conditionStep number ruleName summary e

end

/-- What a search over drafts came to. -/
inductive Ending where
  /-- A rule was found. -/
  | found (r : DraftRule)
  /-- No rule was found. -/
  | exhausted
  /-- A fault ended the search. -/
  | faulted (f : Fault)

/-- Adds what an examination has logged and counted. -/
def Searched.observe (s : Searched) (e : Examination) : Searched :=
  { s with log := s.log ++ e.log, measured := s.measured ++ e.measured }

/-- Examines drafts up to the first one whose conditions hold, or the first fault. -/
def search [Interpreter] (evs : DraftCourse) (m : Message) :
    Searched → List DraftRule → Searched × Ending
  | s, [] => (s, .exhausted)
  | s, r :: rs =>
    match examine evs m r with
    | .error (f, e) => (Searched.observe s e, .faulted f)
    | .ok e =>
      let s := Searched.observe { s with issues := s.issues ++ e.issues } e
      match step (s.steps.length + 1) r e with
      | .error f => (s, .faulted f)
      | .ok st =>
        let s := { s with steps := s.steps ++ [st] }
        if e.matched then (s, .found r) else search (evs.after e.entries.length) m s rs

/-- The expression of a transform that is to be applied. -/
def enabledExpression : Option DraftTransform → Except Fault (Option Attribute)
  | none => .ok none
  | some t => do
    if ← (← needed t.kind "enabled" (← t.enabled)).isFilled then
      return some (← needed t.kind "jq_expression" (← t.expression))
    else return none

/-- The error of a search that a fault has ended. -/
def faultIssue (f : Fault) : Issue :=
  Issue.fail matchingPlace ("Route matching failed: " ++ f.message) none

/-- The event of a search that a fault has ended. -/
def faultEvent (f : Fault) : Log.Event :=
  event .error "Route matching failed" [("error", .text f.message)]

/-- How many conditions some steps record. -/
def recordedCount (steps : List Step) : Nat := (steps.flatMap (·.entries)).length

section

variable [Interpreter]

/-- What the log shows of an expression that was evaluated: it is shown if the evaluator raises. -/
def loggedExpression (e : Attribute) : Reply Outcome → Except Fault Value
  | .answered _ => .ok .null
  | .raised _ => e.logged

/-- Tries the transform of a draft, if there is one. -/
def tried (ev : DraftEvaluator) (m : Message) : Option Attribute → Except Fault (Option Attempt)
  | none => .ok none
  | some e => do
    let answer := ev.evaluate e m.payload
    return some (attemptOf (← loggedExpression e answer.reply) answer)

/-- Ends a run that has found a draft. -/
def concludeFound (ev : DraftEvaluator) (s : Searched) (m : Message) (r : DraftRule) :
    Except RunFault Run := do
  let name ← ((needed "Rule" "name" r.name).bind fun a => a.recorded "TraceStep").mapError .fault
  let destination ← (needed "Rule" "destination" r.destination).mapError .fault
  let expression ← (enabledExpression r.transform).mapError .fault
  let attempt ← (tried ev m expression).mapError .fault
  let taken ← (destination.recorded "SimulationResult").mapError fun _ =>
    .unfit [⟨[.member "destination"], .text⟩]
  let route : Route := ⟨name, taken, none⟩
  return match attempt with
  | none => finish s m (some route)
  | some a => finishTransformed s m route a

/-- Ends a run whose search has come to an end. -/
def conclude (ev : DraftEvaluator) (s : Searched) (m : Message) :
    Ending → Except RunFault Run
  | .found r => concludeFound ev s m r
  | .exhausted => .ok (finish s m none)
  | .faulted f =>
    .ok (finish { s with
      issues := s.issues ++ [faultIssue f], log := s.log ++ [faultEvent f] } m none)

/-- Searches the candidates among drafts. -/
def searchAll (evs : DraftCourse) (rules : List DraftRule) (m : Message) : Searched × Ending :=
  let start : Searched := ⟨rules.length, [], [], [startedEvent rules.length], []⟩
  match DraftRule.candidates rules with
  | .error f => (start, .faulted f)
  | .ok rs => search evs m start rs

/-- Routes a message with drafts and an evaluator that changes on the way. The payload is copied
after the search. -/
def runAlong (evs : DraftCourse) (rules : List DraftRule) (m : Message) : Except RunFault Run := do
  let (s, ending) := searchAll evs rules m
  (Interpreter.copying.enter m.payload.height).mapError .fault
  conclude (evs (recordedCount s.steps)) s m ending

/-- Routes a message with drafts. -/
def runOnce (ev : DraftEvaluator) (rules : List DraftRule) (m : Message) : Except RunFault Run :=
  runAlong (.constant ev) rules m

end

end MessageRouting.Draft
