import MessageRouting.Draft.Attribute
import MessageRouting.Rule

/-!
# Drafts of rules

A draft is a rule that nothing has checked: its attributes can hold anything or be absent. Its
conditions need not even be records: an attribute of a condition is what an attempt to read it
gives. A condition of a draft is evaluated by the same operators as a checked one, and what makes no
sense becomes a warning; only a tag that cannot be read or written down is a fault. `Rule.draft`
forgets that a rule has been checked.
-/

namespace MessageRouting

open Expression

/-- A condition that nothing has checked. -/
structure DraftCondition where
  /-- The name of the kind of objects that it belongs to. -/
  kind : String
  /-- What should be its tag. -/
  tag : Lookup
  /-- What should be its path. -/
  path : Lookup
  /-- What should be its operator. -/
  operator : Lookup
  /-- What should be its operand. -/
  operand : Lookup
  /-- What should be its expression. -/
  expression : Lookup

/-- The transform of a draft. -/
structure DraftTransform where
  /-- The name of the kind of objects that it belongs to. -/
  kind : String
  /-- What should say whether it is applied. -/
  enabled : Lookup
  /-- What should be its expression. -/
  expression : Lookup

/-- The conditions of a draft. -/
inductive DraftConditions where
  /-- A list of conditions. -/
  | list (conditions : List DraftCondition)
  /-- A value in place of conditions. -/
  | other (v : Value)
  /-- An object that gives conditions one by one, may fail after the last of them, and may have a
  length. -/
  | foreign (conditions : List DraftCondition) (ending : Option Fault)
      (length : Except Fault Nat)

/-- A rule that nothing has checked. -/
structure DraftRule where
  /-- What should be its name. -/
  name : Option Attribute
  /-- What should say whether it takes part. -/
  enabled : Attribute
  /-- What should be its priority. -/
  priority : Attribute
  /-- Its conditions. -/
  conditions : DraftConditions
  /-- What should be its combination. -/
  combination : Attribute
  /-- Its transform. -/
  transform : Option DraftTransform
  /-- What should be its destination. -/
  destination : Option Attribute

namespace Lookup

/-- An attribute that holds a value, if there is one. -/
def given (v : Option Value) : Lookup := .ok (v.map .value)

/-- An attribute that is not there. -/
def absent : Lookup := .ok none

/-- What an attribute holds, or nothing if it is not there. -/
def orNull (r : Lookup) : Except Fault Attribute := r.map fun a => a.getD .null

end Lookup

namespace DraftCondition

open Lookup

/-- The kind of conditions that belong to no variant. -/
def foreignKind : String := "types.SimpleNamespace"

/-- Something of a kind that has no attributes. -/
def bare (kind : String) : DraftCondition := ⟨kind, absent, absent, absent, absent, absent⟩

/-- The attributes that an object gives and no others. -/
def ofMembers (v : Value) : DraftCondition :=
  ⟨foreignKind, given (v.get? "type"), given (v.get? "field"), given (v.get? "operator"),
    given (v.get? "value"), given (v.get? "jq_expression")⟩

/-- The tag of the variant that a condition belongs to. -/
def variantTag : Option Value → String
  | some (.text t) => if Condition.tags.contains t then t else Space.payload.name
  | _ => Space.payload.name

/-- The attributes that an object gives, with the defaults of the variant that its tag names. A
variant has no attributes but its own. -/
def ofVariant (v : Value) : DraftCondition :=
  let tag := v.get? "type"
  let variant := variantTag tag
  let kind := Condition.kindOf variant
  if variant = Condition.expressionTag then
    { bare kind with tag := given tag, expression := given (v.get? "jq_expression") }
  else
    { kind := kind
      tag := given (some (tag.getD (.text Space.payload.name)))
      path := given (some ((v.get? "field").getD .null))
      operator := given (some ((v.get? "operator").getD (.text Operator.equals.name)))
      operand := given (some ((v.get? "value").getD .null))
      expression := absent }

/-- What a tag means. -/
inductive Meaning where
  /-- A field of a part of the message. -/
  | field (space : Space)
  /-- An expression. -/
  | expression
deriving DecidableEq

/-- The tags with their meanings, in the order in which they are looked for. -/
def meanings : List (String × Meaning) :=
  (Condition.expressionTag, .expression) ::
    [Space.payload, .metadata, .header].map fun s => (s.name, .field s)

/-- The operators by their names, in the order in which they are looked for. -/
def operators : List (String × Operator) :=
  [Operator.present, .equals, .contains, .regex].map fun o => (o.name, o)

section

variable [Interpreter]

/-- Whether a field is there and equals the operand. -/
def equalsOperand (actual : Option Value) (operand : Attribute) : Except Fault Finding :=
  match actual, operand with
  | actual, .value w => Condition.equalsOperand actual w
  | none, .foreign _ => .ok (.plain false)
  | some v, .foreign o => (o.equals v).map .plain

/-- The text in which an operand is looked for. -/
def operandText : Attribute → Except Fault (List Char)
  | .value v => v.asText
  | .foreign o => o.asText

/-- Compares what a field holds, if it is there, with the operand. -/
def compare (operator : Operator) (shown : Except Fault String) (actual : Option Value)
    (operand : Attribute) : Except Fault Finding :=
  if operator.needsOperand && operand.isNull then
    shown.map fun name => .warn ("Condition operator '" ++ name ++ "' requires a value") none
  else
    match operator with
    | .present => .ok (.plain (actual.any fun v => !v.isNull))
    | .equals => equalsOperand actual operand
    | .contains => Condition.containsWritten actual (operandText operand)
    | .regex => Condition.matchesWritten actual (operandText operand)

/-- An expression, evaluated on the payload. -/
def evaluateExpression (ev : DraftEvaluator) (m : Message) (expression : Attribute) :
    Except Fault Finding × List Log.Event :=
  match expression.isFilled with
  | .error f => (.error f, [])
  | .ok false => (.ok (.warn "JQ condition has no expression" none), [])
  | .ok true =>
    let answer := ev.evaluate expression m.payload
    let finding : Except Fault Finding := do
      match answer.reply with
      | .raised f => throw f
      | .answered o =>
        if o.success then return .plain o.output.holds
        return Condition.ofOutcome (← expression.plainText) o
    (finding, answer.log)

/-- Something found at a path, compared with the operand by an operator that can be anything. -/
def compareAs (operator operand : Attribute) (actual : Option Value) :
    Except Fault Finding × List Log.Event :=
  match operator.named? operators with
  | .error f => (.error f, [])
  | .ok (some o) => (compare o (operator.plainText) actual operand, [])
  | .ok none =>
    match operator.logged with
    | .error f => (.error f, [])
    | .ok shown =>
      (do
        let shown ← operator.plainText
        return .warn ("Unknown condition operator '" ++ shown ++ "'") none,
        [⟨.warning, "Unknown condition operator", [("operator", shown)]⟩])

/-- What the path of a condition names; without result if it has none. -/
def located (m : Message) (space : Space) (c : DraftCondition) :
    Except Fault (Option (Option Value)) := do
  let path ← c.path.orNull
  if ← path.isFilled then return some (← path.locate m space) else return none

/-- A field, compared with the operand. -/
def evaluateField (m : Message) (space : Space) (c : DraftCondition) :
    Except Fault Finding × List Log.Event :=
  match located m space c with
  | .error f => (.error f, [])
  | .ok none => (.ok (.plain false), [])
  | .ok (some actual) =>
    match c.operator.orNull, c.operand.orNull with
    | .error f, _ | .ok _, .error f => (.error f, [])
    | .ok operator, .ok operand => compareAs operator operand actual

/-- A condition whose tag has a meaning. -/
def evaluateAs (ev : DraftEvaluator) (m : Message) (c : DraftCondition) :
    Meaning → Except Fault Finding × List Log.Event
  | .field space => evaluateField m space c
  | .expression =>
    match c.expression.orNull with
    | .error f => (.error f, [])
    | .ok e => evaluateExpression ev m e

/-- Turns a fault into a warning. The log shows the tag of the condition. -/
def settle (tag : Attribute) (log : List Log.Event) :
    Except Fault Finding → Except Fault Appraisal
  | .ok finding => .ok ⟨finding, log⟩
  | .error f => do return ⟨.ofFault f, log ++ [Condition.faultEvent (← tag.logged) f]⟩

/-- Whether a message meets a condition that nothing has checked. -/
def evaluate (ev : DraftEvaluator) (m : Message) (c : DraftCondition) : Except Fault Appraisal := do
  let tag ← c.tag.orNull
  match tag.named? meanings with
  | .error f => settle tag [] (.error f)
  | .ok (some meaning) =>
    let (r, log) := evaluateAs ev m c meaning
    settle tag log r
  | .ok none =>
    let shown ← tag.logged
    let written ← tag.plainText
    return ⟨.warn ("Unknown condition type '" ++ written ++ "'") none,
      [⟨.warning, "Unknown condition type", [("condition_type", shown)]⟩]⟩

end

end DraftCondition

namespace DraftConditions

/-- The conditions one by one, and the fault that ends them. What has characters or names in place
of conditions has a condition without attributes for each. -/
def toList : DraftConditions → List DraftCondition × Option Fault
  | list cs => (cs, none)
  | foreign cs ending _ => (cs, ending)
  | other (.text s) => (s.toList.map fun _ => .bare (Value.text s).kind, none)
  | other (.scalar (.broken codes)) => (codes.map fun _ => .bare (Scalar.broken codes).kind, none)
  | other (.scalar (.bytes data)) => (data.map fun b => .bare (Value.nat b.toNat).kind, none)
  | other (.list vs) => (vs.map fun v => .bare v.kind, none)
  | other (.object ms) => (ms.map fun m => .bare m.1.kind, none)
  | other (.set es) => (es.map fun e => .bare e.kind, none)
  | other (.pair v w) => ([.bare v.kind, .bare w.kind], none)
  | other v => ([], some (.notIterable v.kind))

/-- How many conditions there are. -/
def count : DraftConditions → Except Fault Nat
  | list cs => .ok cs.length
  | other v => (Attribute.value v).length
  | foreign _ _ length => length

end DraftConditions

namespace DraftTransform

/-- Something of a kind that has no attributes. -/
def bare (kind : String) : DraftTransform := ⟨kind, Lookup.absent, Lookup.absent⟩

/-- The kind of transforms. -/
def recordKind : String := "Transform"

end DraftTransform

namespace DraftRule

open Lookup

/-- The draft that an object gives, with the defaults of rules. `condition` reads each of its
conditions. -/
def ofValue (condition : Value → DraftCondition) (v : Value) : DraftRule where
  name := (v.get? "name").map .value
  enabled := .value ((v.get? "enabled").getD (.bool true))
  priority := .value ((v.get? "priority").getD (.int Rule.usualPriority))
  conditions :=
    match v.get? "conditions" with
    | none => .list []
    | some (.list vs) => .list (vs.map condition)
    | some other => .other other
  combination := .value ((v.get? "condition_operator").getD (.text Combination.all.name))
  transform :=
    match v.get? "transform" with
    | none | some .null => none
    | some (.object ms) =>
      let t := Value.object ms
      some ⟨DraftTransform.recordKind, given (some ((t.get? "enabled").getD (.bool true))),
        given (t.get? "jq_expression")⟩
    | some other => some (.bare other.kind)
  destination := (v.get? "destination").map .value

end DraftRule

/-! ## Drafts of what has been checked -/

/-- A condition as a draft. -/
def Condition.draft : Condition → DraftCondition
  | .field space path operator operand =>
    { kind := Condition.kindOf space.name
      tag := .ok (some (.text space.name))
      path := .ok (some (.value (Value.textOrNull path)))
      operator := .ok (some (.text operator.name))
      operand := .ok (some (.value operand))
      expression := Lookup.absent }
  | .expression e =>
    { DraftCondition.bare (Condition.kindOf Condition.expressionTag) with
      tag := .ok (some (.text Condition.expressionTag)), expression := .ok (some (.text e)) }

/-- A rule as a draft. -/
def Rule.draft (r : Rule) : DraftRule where
  name := some (.text r.name)
  enabled := .value (.bool r.enabled)
  priority := .value (.int r.priority)
  conditions := .list (r.conditions.map Condition.draft)
  combination := .text r.combination.name
  transform := r.transform.map fun t =>
    ⟨DraftTransform.recordKind, .ok (some (.value (.bool t.enabled))),
      .ok (some (.text t.expression))⟩
  destination := some (.text r.destination)

end MessageRouting
