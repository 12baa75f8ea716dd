import MessageRouting.Message
import MessageRouting.Routing

/-!
# Cases

A case is a message with what should become of it. `Expectation.mismatches` lists how the result of
a run differs from what was expected; a payload is only compared if the expectation gives one.
-/

namespace MessageRouting

open Schema

/-- What is expected of a run. -/
structure Expectation where
  /-- The name of the rule; none if no rule should be found. -/
  ruleName : Option String
  /-- The destination, if it matters. -/
  destination : Option String
  /-- The transformed payload, if it matters. -/
  payload : Option Value
deriving Inhabited

/-- A message with an expectation. -/
structure Case where
  /-- Its name. -/
  name : String
  /-- What it is for. -/
  description : String
  /-- The message. -/
  message : Message
  /-- What is expected. -/
  expected : Option Expectation

namespace Expectation

/-- An expectation. -/
def check : Check Expectation :=
  record "ExpectedOutput" fun ms =>
    Expectation.mk <$> optional ms "rule_name" none (nullable text)
      <*> optional ms "destination" none (nullable text)
      <*> optional ms "transformed_payload" none fun v => (anything v).map some

/-- An expectation as a record. -/
def entity (e : Expectation) : Entity where
  kind := "ExpectedOutput"
  frozen := false
  fields := [("rule_name", Value.textOrNull e.ruleName),
    ("destination", Value.textOrNull e.destination),
    ("transformed_payload", e.payload.getD .null)]

/-- The names of the fields that data gives. -/
def givenNames (data : Value) : List String :=
  ["destination", "rule_name", "transformed_payload"].filter fun name => (data.get? name).isSome

/-- The literal of a name, or of its absence. -/
def nameLiteral (name : Option String) : String :=
  match name with
  | some s => String.ofList (Text.Quoted.literal s.toList)
  | none => "None"

/-- A difference between something expected and what there was. -/
def difference (what expected got : String) : String :=
  "expected " ++ what ++ " " ++ expected ++ ", got " ++ got

variable [Interpreter]

/-- The differences between the payload that was expected and the one that there was. -/
def payloadMismatches (expected : Value) (r : RunResult) : Except Fault (List String) := do
  if !r.transformApplied then
    return ["expected a transformed payload, but no transform was applied"]
  if ← r.transformed.equals expected then return []
  let wanted ← expected.literal
  let got ← r.transformed.literal
  return [difference "payload" (String.ofList wanted) (String.ofList got)]

/-- The differences between an expectation and a result. Payloads that nest too deep cannot be
compared, and neither those nor integers of too many digits can be reported. -/
def mismatches (e : Expectation) (r : RunResult) : Except Fault (List String) := do
  let rule :=
    if r.ruleName = e.ruleName then []
    else [difference "rule" (nameLiteral e.ruleName) (nameLiteral r.ruleName)]
  let destination :=
    if e.destination.isNone || r.destination = e.destination then []
    else [difference "destination" (nameLiteral e.destination) (nameLiteral r.destination)]
  let payload ← match e.payload with
    | none => pure []
    | some v => payloadMismatches v r
  return rule ++ destination ++ payload

end Expectation

namespace Case

/-- A case. -/
def check : Check Case :=
  record "SimulationCase" fun ms =>
    Case.mk <$> required ms "name" filledText
      <*> optional ms "description" "" text
      <*> optional ms "input" Message.empty Message.check
      <*> optional ms "expected" none (nullable Expectation.check)

/-- A case as a record. -/
def entity (c : Case) : Entity where
  kind := "SimulationCase"
  frozen := false
  fields := [("name", .text c.name), ("description", .text c.description),
    ("input", c.message.entity.toValue),
    ("expected", (c.expected.map fun e => e.entity.toValue).getD .null)]

end Case

end MessageRouting
