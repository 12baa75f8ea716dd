import MessageRouting.Condition
import MessageRouting.Expression
import MessageRouting.Issue
import MessageRouting.Json.Writer
import MessageRouting.Message
import MessageRouting.Pattern.Search
import MessageRouting.Text.Substring
import MessageRouting.Value.Equality
import MessageRouting.Value.Path

/-!
# Evaluating conditions

`Condition.evaluate` asks whether a message meets a condition. It always answers: what goes wrong on
the way is a warning with the answer that the condition does not hold.
-/

namespace MessageRouting

open Expression

/-- The answer to a condition. -/
structure Finding where
  /-- Whether the condition holds. -/
  matched : Bool
  /-- A warning. -/
  issue : Option Issue
deriving DecidableEq, Repr, Inhabited

/-- An answer, with what was logged on the way. -/
structure Appraisal where
  /-- The answer. -/
  finding : Finding
  /-- The events, in their order. -/
  log : List Log.Event

namespace Finding

/-- A finding. -/
def check : Schema.Check Finding :=
  Schema.record "ConditionOutcome" fun ms =>
    Finding.mk <$> Schema.required ms "matched" Schema.boolean
      <*> Schema.optional ms "issue" none (Schema.nullable Issue.check)

/-- A finding as a record. -/
def entity (f : Finding) : Schema.Entity where
  kind := "ConditionOutcome"
  frozen := false
  fields := [("matched", .bool f.matched), ("issue", (f.issue.map Issue.toValue).getD .null)]

/-- An answer without a warning. -/
def plain (matched : Bool) : Finding := ⟨matched, none⟩

/-- Where the warnings of conditions arise. -/
def place : String := "Condition Evaluation"

/-- The answer that a condition does not hold, with a warning. -/
def warn (message : String) (suggestion : Option String) : Finding :=
  ⟨false, some (Issue.warn place message suggestion)⟩

/-- What a fault means for the answer. -/
def ofFault (f : Fault) : Finding := warn ("Condition evaluation failed: " ++ f.message) none

end Finding

namespace Condition

variable [Interpreter]

/-! ## Operators -/

/-- What may help against a malformed pattern. -/
def patternAdvice : String := "Check the pattern syntax; it is not implicitly anchored"

/-- Whether an operand as it is written occurs in the field's text. -/
def containsWritten (actual : Option Value) (written : Except Fault (List Char)) :
    Except Fault Finding := do
  match actual with
  | none => return .plain false
  | some v =>
    let w ← written
    return .plain (Text.occurs w (← v.asText))

/-- Whether the operand's text occurs in the field's text. -/
def containsText (actual : Option Value) (operand : Value) : Except Fault Finding :=
  containsWritten actual operand.asText

/-- Whether a field is there and equals the operand. -/
def equalsOperand (actual : Option Value) (operand : Value) : Except Fault Finding :=
  match actual with
  | none => .ok (.plain false)
  | some v => (v.equals operand).map .plain

/-- Whether an operand as it is written is a pattern that occurs in the field's text. -/
def matchesWritten (actual : Option Value) (written : Except Fault (List Char)) :
    Except Fault Finding := do
  let pattern ← written
  match Pattern.read pattern with
  | .error .repetitionCount => throw .repetitionCount
  | .error .flagConflict => throw .flagConflict
  | .error .tooDeep => throw Interpreter.grouping.fault
  | .error e =>
    return .warn ("Invalid regex pattern '" ++ String.ofList pattern ++ "': " ++ e.message pattern)
      (some patternAdvice)
  | .ok node =>
    match actual with
    | none => return .plain false
    | some v => return .plain (Pattern.occursIn node (← v.asText))

/-- Whether the operand is a pattern that occurs in the field's text. -/
def matchesPattern (actual : Option Value) (operand : Value) : Except Fault Finding :=
  matchesWritten actual operand.asText

/-- Compares what a field holds, if it is there, with the operand. -/
def compare (operator : Operator) (actual : Option Value) (operand : Value) :
    Except Fault Finding :=
  if operator.needsOperand && operand.isNull then
    .ok (.warn ("Condition operator '" ++ operator.name ++ "' requires a value") none)
  else
    match operator with
    | .present => .ok (.plain (actual.any fun v => !v.isNull))
    | .equals => equalsOperand actual operand
    | .contains => containsText actual operand
    | .regex => matchesPattern actual operand

/-! ## Expressions -/

/-- The answer that an outcome gives. -/
def ofOutcome (expression : String) (o : Outcome) : Finding :=
  if o.success then .plain o.output.holds
  else
    .warn ("JQ condition '" ++ expression ++ "' failed: " ++ o.error.getD "None")
      o.suggestions.head?

/-- The answer that the evaluation of an expression gives. -/
def ofReply (expression : String) : Reply Outcome → Except Fault Finding
  | .answered o => .ok (ofOutcome expression o)
  | .raised f => .error f

/-! ## Conditions -/

/-- The event that reports a fault. -/
def faultEvent (tag : Value) (f : Fault) : Log.Event :=
  ⟨.error, "Condition evaluation failed", [("condition_type", tag), ("error", .text f.message)]⟩

/-- Turns a fault into a warning. -/
def settle (tag : Value) (log : List Log.Event) : Except Fault Finding → Appraisal
  | .ok finding => ⟨finding, log⟩
  | .error f => ⟨.ofFault f, log ++ [faultEvent tag f]⟩

/-- What a path names in a part of a message. A header is named by the whole path. -/
def locate (m : Message) (path : String) : Space → Option Value
  | .payload => m.payload.lookup? path
  | .metadata => (Value.object m.metadata).lookup? path
  | .header => (m.headers.lookup path).map .text

/-- Whether a message meets a condition. -/
def evaluate (ev : Evaluator) (m : Message) (c : Condition) : Appraisal :=
  match c with
  | .expression "" => ⟨.warn "JQ condition has no expression" none, []⟩
  | .expression e =>
    let answer := ev.evaluate (.text e) m.payload
    settle (.text expressionTag) answer.log (ofReply e answer.reply)
  | .field space path operator operand =>
    match path with
    | none | some "" => ⟨.plain false, []⟩
    | some p => settle (.text space.name) [] (compare operator (locate m p space) operand)

end Condition

end MessageRouting
