import MessageRouting.Draft.Routing
import MessageRouting.Lint

/-!
# Checking drafts before they are used

`Draft.report` looks for the same faults in drafts as `Lint.report` in checked rules, in the same
words. A draft whose attributes cannot even be looked at ends the check with a fault: one without a
name, or with a priority that no integer compares with.
-/

namespace MessageRouting.Draft

open Expression

variable [Interpreter]

/-- The name of a draft, with its text. -/
def nameOf (r : DraftRule) : Except Fault (Attribute × String) := do
  let name ← needed "Rule" "name" r.name
  let shown ← name.plainText
  name.hashed
  return (name, shown)

/-- Whether one of some earlier names is like a name. -/
def isRepeated (name : Attribute) : List Attribute → Except Fault Bool
  | [] => .ok false
  | a :: rest => do if ← a.ties name then return true else isRepeated name rest

/-- A name that an earlier draft has. -/
def duplicateIssues (place shown : String) (earlier : List Attribute) (name : Attribute) :
    Except Fault (List Issue) := do
  if ← isRepeated name earlier then return Lint.duplicateIssues place [shown] shown else return []

/-- The issues of a field of a condition. -/
def fieldIssues (place : String) (c : DraftCondition) : Except Fault (List Issue) := do
  if ← (← needed c.kind "field" (← c.path)).isFilled then return []
  let tag ← needed c.kind "type" (← c.tag)
  return [Lint.fieldIssue place (← tag.plainText)]

/-- A pattern that cannot be read. -/
def patternIssues (place : String) (operand : Attribute) : Except Fault (List Issue) :=
  match operand with
  | .value v => Lint.patternIssues place v
  | .foreign o => do Lint.patternIssues place (.text (String.ofList (← o.asText)))

/-- The issues of an operator and its operand. An unknown operator has none. -/
def operandIssues (place : String) (c : DraftCondition) : Except Fault (List Issue) := do
  let operator ← needed c.kind "operator" (← c.operator)
  match ← operator.named? DraftCondition.operators with
  | some o =>
    if o.needsOperand then
      let operand ← needed c.kind "value" (← c.operand)
      if operand.isNull then
        return [.fail place (Lint.quoted (← operator.plainText) ++ " condition has no value") none]
      else if o = .regex then patternIssues place operand
      else return []
    else return []
  | none => return []

/-- An expression that cannot be evaluated. -/
def expressionIssues (ev : Option DraftEvaluator) (place : String) (expression : Attribute) :
    Except Fault (List Issue) :=
  Lint.expressionIssues (ev.map fun ev =>
    { evaluate := fun _ input => ev.evaluate expression input
      validate := fun _ => ev.validate expression }) place .null

/-- The issues of a condition. -/
def conditionIssues (ev : Option DraftEvaluator) (place : String) (c : DraftCondition) :
    Except Fault (List Issue) := do
  if c.kind = Condition.kindOf Condition.expressionTag then
    expressionIssues ev place (← needed c.kind "jq_expression" (← c.expression))
  else
    let field ← fieldIssues place c
    return field ++ (← operandIssues place c)

/-- The issues of the transform that a draft applies. -/
def transformIssues (ev : Option DraftEvaluator) (place : String) (r : DraftRule) :
    Except Fault (List Issue) := do
  match ← enabledExpression r.transform with
  | some e => expressionIssues ev (Lint.transformPlace place) e
  | none => return []

/-- A name that is too long. -/
def nameIssues (l : Limits) (place : String) (length : Nat) : List Issue :=
  if l.maxNameLength < length then
    [.fail place ("Rule name exceeds " ++ toString l.maxNameLength ++ " characters") none]
  else []

/-- The issues that a draft has by itself. -/
def ownIssues (l : Limits) (ev : Option DraftEvaluator) (place : String) (name : Attribute)
    (r : DraftRule) : Except Fault (List Issue) := do
  let length ← name.length
  let count ← r.conditions.count
  let priority ←
    if ← r.priority.isWithin l.minPriority l.maxPriority then pure []
    else pure [← Lint.outsideIssue l place (← r.priority.plainText)]
  let (cs, ending) := r.conditions.toList
  let conditions ← cs.zipIdx.mapM fun (c, j) => conditionIssues ev (Lint.conditionPlace place j) c
  if let some f := ending then throw f
  let transform ← transformIssues ev place r
  return nameIssues l place length ++ Lint.countIssues l place count ++ priority ++
    conditions.flatten ++ transform

/-- The text of the name of the first of some earlier drafts that take part and have a priority. -/
def tied? (priority : Attribute) : List (String × DraftRule) → Except Fault (Option String)
  | [] => .ok none
  | (shown, b) :: rest => do
    if ← b.enabled.isFilled then
      if ← b.priority.ties priority then return some shown
    tied? priority rest

/-- A priority that one of the earlier drafts has. -/
def tieIssues (place : String) (earlier : List (String × DraftRule)) (r : DraftRule) :
    Except Fault (List Issue) := do
  if ← r.enabled.isFilled then
    r.priority.hashed
    match ← tied? r.priority earlier with
    | some name => return [Lint.tieIssue place (← r.priority.plainText) name]
    | none => return []
  else return []

/-- The issues of each draft, given those before it with their names. -/
def eachIssues (l : Limits) (ev : Option DraftEvaluator)
    (earlier : List (Attribute × String × DraftRule)) : List DraftRule → Except Fault (List Issue)
  | [] => .ok []
  | r :: rs => do
    let (name, shown) ← nameOf r
    let place := Lint.rulePlace earlier.length shown
    let duplicates ← duplicateIssues place shown (earlier.map (·.1)) name
    let own ← ownIssues l ev place name r
    let ties ← tieIssues place (earlier.map (·.2)) r
    let rest ← eachIssues l ev (earlier ++ [(name, shown, r)]) rs
    return duplicates ++ own ++ ties ++ rest

/-- The drafts that no message reaches, because one without conditions is tried first. -/
def shadowIssues (rules : List DraftRule) : Except Fault (List Issue) := do
  let ordered ← (← DraftRule.candidates rules).mapM fun r => do
    return ((← nameOf r).2, ← r.conditions.count)
  match ordered.dropWhile fun (_, count) => count ≠ 0 with
  | [] => return []
  | (blocker, _) :: rest => return rest.map fun (name, _) => Lint.shadowIssue blocker name

/-- Checks a collection of drafts. -/
def report (l : Limits) (ev : Option DraftEvaluator) (rules : List DraftRule) :
    Except Fault Lint.Report := do
  let each ← eachIssues l ev [] rules
  let shadow ← shadowIssues rules
  return .ofIssues (Lint.collectionIssues l rules.length ++ each ++ shadow)

end MessageRouting.Draft
