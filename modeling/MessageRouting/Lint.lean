import MessageRouting.Limits
import MessageRouting.Routing

/-!
# Checking rules before they are used

`Lint.report` looks for what is wrong or doubtful in a collection of rules: names given twice,
limits that are passed, conditions that cannot be evaluated or never hold, rules that tie or that no
message reaches. A rule is reported against the rules before it; reachability goes by the order in
which rules are tried. Errors come before warnings.
-/

namespace MessageRouting.Lint

open Expression

/-- What a check of rules found. -/
structure Report where
  /-- The errors, in their order. -/
  errors : List Issue
  /-- The warnings, in their order. -/
  warnings : List Issue
deriving DecidableEq, Repr, Inhabited

namespace Report

/-- Issues, sorted by severity. -/
def ofIssues (issues : List Issue) : Report :=
  ⟨issues.filter (·.severity = .error), issues.filter (·.severity = .warning)⟩

/-- Whether the rules can be used: there are no errors. -/
def valid (r : Report) : Bool := r.errors.isEmpty

/-- All issues, errors first. -/
def issues (r : Report) : List Issue := r.errors ++ r.warnings

end Report

/-! ## Wording -/

/-- A name in quotes. -/
def quoted (name : String) : String := "'" ++ name ++ "'"

/-- The place of a rule. -/
def rulePlace (index : Nat) (name : String) : String :=
  "rules[" ++ toString index ++ "] " ++ quoted name

/-- The place of a condition of a rule. -/
def conditionPlace (place : String) (index : Nat) : String :=
  place ++ " conditions[" ++ toString index ++ "]"

/-- The place of the transform of a rule. -/
def transformPlace (place : String) : String := place ++ " transform"

/-- An integer as text. -/
def integer (n : Int) : Except Fault String := (Literal.integer n).map String.ofList

/-- More things than there may be. -/
def tooMany (count : Nat) (what : String) (most : Int) : String :=
  toString count ++ " " ++ what ++ " defined, the maximum is " ++ toString most

variable [Interpreter]

/-! ## Single rules -/

/-- An expression that cannot be evaluated. -/
def expressionIssues (ev : Option Evaluator) (place : String) (expression : Value) :
    Except Fault (List Issue) :=
  match ev with
  | none => .ok []
  | some ev =>
    match (ev.validate expression).reply with
    | .raised f => .error f
    | .answered v =>
      .ok (if v.valid then [] else
        [.fail place ("Invalid JQ expression: " ++ v.error.getD "None") v.suggestions.head?])

/-- A pattern that cannot be read. -/
def patternIssues (place : String) (operand : Value) : Except Fault (List Issue) := do
  let pattern ← operand.asText
  match Pattern.read pattern with
  | .error .repetitionCount => throw .repetitionCount
  | .error .flagConflict => throw .flagConflict
  | .error .tooDeep => throw Interpreter.grouping.fault
  | .error e => return [.fail place ("Invalid regex pattern: " ++ e.message pattern) none]
  | .ok _ => return []

/-- A condition with a tag that never holds because it has no field. -/
def fieldIssue (place tag : String) : Issue :=
  .warn place (tag ++ " condition has no field and never matches") none

/-- A condition that never holds because it has no field. -/
def fieldIssues (place : String) (space : Space) (path : Option String) : List Issue :=
  match path with
  | none | some "" => [fieldIssue place space.name]
  | some _ => []

/-- An operator without its operand, or with one that it cannot use. -/
def operandIssues (place : String) (operator : Operator) (operand : Value) :
    Except Fault (List Issue) :=
  if operator.needsOperand && operand.isNull then
    .ok [.fail place (quoted operator.name ++ " condition has no value") none]
  else if operator = .regex then patternIssues place operand
  else .ok []

/-- The issues of a condition. -/
def conditionIssues (ev : Option Evaluator) (place : String) : Condition →
    Except Fault (List Issue)
  | .expression text => expressionIssues ev place (.text text)
  | .field space path operator operand => do
    return fieldIssues place space path ++ (← operandIssues place operator operand)

/-- A name that is too long. -/
def nameIssues (l : Limits) (place name : String) : List Issue :=
  if l.maxNameLength < name.length then
    [.fail place ("Rule name exceeds " ++ toString l.maxNameLength ++ " characters") none]
  else []

/-- Too many conditions. -/
def countIssues (l : Limits) (place : String) (count : Nat) : List Issue :=
  if l.maxConditions < count then
    [.fail place (tooMany count "conditions" l.maxConditions) none]
  else []

/-- A priority, as it is written, that is not recommended. -/
def outsideIssue (l : Limits) (place priority : String) : Except Fault Issue := do
  let low ← integer l.minPriority
  let high ← integer l.maxPriority
  return .warn place ("Priority " ++ priority ++ " is outside [" ++ low ++ ", " ++ high ++ "]") none

/-- A priority that is not recommended. -/
def priorityIssues (l : Limits) (place : String) (r : Rule) : Except Fault (List Issue) :=
  if l.minPriority ≤ r.priority && r.priority ≤ l.maxPriority then .ok []
  else do return [← outsideIssue l place (← integer r.priority)]

/-- The issues of the transform that a rule applies. -/
def transformIssues (ev : Option Evaluator) (place : String) (r : Rule) :
    Except Fault (List Issue) :=
  match r.transform with
  | some t =>
    if t.enabled then expressionIssues ev (transformPlace place) (.text t.expression) else .ok []
  | none => .ok []

/-- The issues that a rule has by itself. -/
def ownIssues (l : Limits) (ev : Option Evaluator) (place : String) (r : Rule) :
    Except Fault (List Issue) := do
  let priority ← priorityIssues l place r
  let conditions ← (r.conditions.zipIdx).mapM fun (c, j) =>
    conditionIssues ev (conditionPlace place j) c
  let transform ← transformIssues ev place r
  return nameIssues l place r.name ++ countIssues l place r.conditions.length ++ priority ++
    conditions.flatten ++ transform

/-! ## Rules among others -/

/-- A name that one of the earlier rules has. -/
def duplicateIssues (place : String) (earlier : List String) (name : String) : List Issue :=
  if earlier.contains name then [.fail place ("Duplicate rule name " ++ quoted name) none] else []

/-- The advice on ties. -/
def tieAdvice : String := "Rules with equal priority are tried in list order"

/-- The first of the earlier rules that take part and have the priority of this one. -/
def tied? (before : List Rule) (r : Rule) : Option Rule :=
  if r.enabled then before.find? fun b => b.enabled && b.priority = r.priority else none

/-- A priority, as it is written, that the rule with a name has before. -/
def tieIssue (place priority name : String) : Issue :=
  .warn place ("Rule has same priority " ++ priority ++ " as " ++ quoted name) (some tieAdvice)

/-- A priority that an earlier rule has. -/
def tieIssues (place : String) (before : List Rule) (r : Rule) : Except Fault (List Issue) :=
  match tied? before r with
  | none => .ok []
  | some b => do return [tieIssue place (← integer r.priority) b.name]

/-- The issues of the rule at a position, given the rules before it. -/
def ruleIssues (l : Limits) (ev : Option Evaluator) (before : List Rule) (r : Rule) :
    Except Fault (List Issue) := do
  let place := rulePlace before.length r.name
  let own ← ownIssues l ev place r
  let ties ← tieIssues place before r
  return duplicateIssues place (before.map (·.name)) r.name ++ own ++ ties

/-- The issues of each rule, given those before it. -/
def eachIssues (l : Limits) (ev : Option Evaluator) (before : List Rule) :
    List Rule → Except Fault (List Issue)
  | [] => .ok []
  | r :: rs => do
    let found ← ruleIssues l ev before r
    return found ++ (← eachIssues l ev (before ++ [r]) rs)

/-- The rule of a name, which no message reaches because one without conditions is tried first. -/
def shadowIssue (blocker name : String) : Issue :=
  .warn (quoted name) ("Rule is unreachable: " ++ quoted blocker ++
    " has no conditions and is evaluated first") none

/-- The rules that no message reaches, with the rule that stands before them. -/
def shadowed (rules : List Rule) : Option (Rule × List Rule) :=
  match (Routing.candidates rules).dropWhile fun r => !r.conditions.isEmpty with
  | [] => none
  | blocker :: rest => some (blocker, rest)

/-- The issues of rules that no message reaches. -/
def shadowIssues (rules : List Rule) : List Issue :=
  match shadowed rules with
  | none => []
  | some (blocker, rest) => rest.map fun r => shadowIssue blocker.name r.name

/-- Too many rules. -/
def collectionIssues (l : Limits) (count : Nat) : List Issue :=
  if l.maxRules < count then [.fail "rules" (tooMany count "rules" l.maxRules) none] else []

/-- Checks a collection of rules. -/
def report (l : Limits) (ev : Option Evaluator) (rules : List Rule) : Except Fault Report := do
  let each ← eachIssues l ev [] rules
  return .ofIssues (collectionIssues l rules.length ++ each ++ shadowIssues rules)

end MessageRouting.Lint
