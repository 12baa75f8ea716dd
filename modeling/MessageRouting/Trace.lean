import MessageRouting.Issue
import MessageRouting.Value.Literal

/-!
# Traces

A routing run records what it did: one step for each rule that it examined, with an entry for each
condition, one step for the route, and one for a transform that was tried.
-/

namespace MessageRouting

open Schema

/-- What became of one condition. -/
structure ConditionEntry where
  /-- Its position in the rule. -/
  index : Int
  /-- Its tag. -/
  tag : String
  /-- Its path or expression. -/
  target : Option String
  /-- Its operator. -/
  operator : Option String
  /-- Whether it held. -/
  matched : Bool
  /-- The warning that it raised. -/
  issue : Option String
deriving DecidableEq, Repr, Inhabited

/-- What a step was about. -/
inductive StepKind where
  /-- The conditions of a rule. -/
  | condition
  /-- The route. -/
  | route
  /-- A transform. -/
  | transform
deriving DecidableEq, Repr, Inhabited

/-- A step of a trace. -/
structure Step where
  /-- Its number, from 1. -/
  number : Int
  /-- What it was about. -/
  kind : StepKind
  /-- A summary. -/
  description : String
  /-- The rule that it concerns. -/
  ruleName : Option String
  /-- What it started from. -/
  input : Value
  /-- What it gave. -/
  output : Value
  /-- What became of each condition. -/
  entries : List ConditionEntry
  /-- Whether it succeeded or matched. -/
  success : Bool
  /-- What went wrong. -/
  error : Option String
deriving Inhabited

/-- A step and how long it took, in milliseconds. -/
structure TimedStep where
  /-- The step. -/
  step : Step
  /-- Its duration. -/
  duration : Binary64

/-- How long a run took, in milliseconds. -/
structure Timings where
  /-- The whole run. -/
  total : Binary64
  /-- The search for a route. -/
  matching : Binary64
  /-- The transform. -/
  transform : Binary64

namespace ConditionEntry

/-- An entry. -/
def check : Check ConditionEntry :=
  record "ConditionTrace" fun ms =>
    ConditionEntry.mk <$> required ms "index" integer
      <*> required ms "type" text
      <*> optional ms "target" none (nullable text)
      <*> optional ms "operator" none (nullable text)
      <*> required ms "matched" boolean
      <*> optional ms "issue" none (nullable text)

/-- An entry as a record. -/
def entity (e : ConditionEntry) : Entity where
  kind := "ConditionTrace"
  frozen := false
  fields := [("index", .int e.index), ("type", .text e.tag),
    ("target", Value.textOrNull e.target), ("operator", Value.textOrNull e.operator),
    ("matched", .bool e.matched), ("issue", Value.textOrNull e.issue)]

end ConditionEntry

namespace StepKind

/-- The name of a kind. -/
def name : StepKind → String
  | condition => "condition"
  | route => "route"
  | transform => "transform"

/-- All kinds. -/
def all : List StepKind := [condition, route, transform]

end StepKind

namespace Step

/-- The fields of a step. -/
def fields (s : Step) : List (String × Value) := [
  ("step", .int s.number), ("type", .text s.kind.name), ("description", .text s.description),
  ("rule_name", Value.textOrNull s.ruleName), ("input", s.input), ("output", s.output),
  ("condition_results", .list (s.entries.map fun e => e.entity.toValue)),
  ("success", .bool s.success), ("error", Value.textOrNull s.error)]

/-- A step as a value. -/
def toValue (s : Step) : Value := .record s.fields

end Step

namespace TimedStep

/-- A step with its duration. -/
def check : Check TimedStep :=
  record "TraceStep" fun ms =>
    (fun number kind description ruleName input output entries duration success error =>
      ⟨⟨number, kind, description, ruleName, input, output, entries, success, error⟩, duration⟩)
      <$> required ms "step" (integerFrom 1)
      <*> required ms "type" (enumeration (StepKind.all.map fun k => (k.name, k)))
      <*> required ms "description" text
      <*> optional ms "rule_name" none (nullable text)
      <*> optional ms "input" .null anything
      <*> optional ms "output" .null anything
      <*> optional ms "condition_results" [] (listOf ConditionEntry.check)
      <*> required ms "duration_ms" Schema.duration
      <*> required ms "success" boolean
      <*> optional ms "error" none (nullable text)

/-- A step with its duration as a record. -/
def entity (s : TimedStep) : Entity :=
  ⟨"TraceStep", false, s.step.fields ++ [("duration_ms", .float s.duration)]⟩

end TimedStep

namespace Timings

/-- Timings. -/
def check : Check Timings :=
  record "SimulationMetrics" fun ms =>
    Timings.mk <$> optional ms "total_duration_ms" (.zero false) Schema.duration
      <*> optional ms "matching_duration_ms" (.zero false) Schema.duration
      <*> optional ms "transform_duration_ms" (.zero false) Schema.duration

/-- Timings as a record. -/
def entity (t : Timings) : Entity where
  kind := "SimulationMetrics"
  frozen := false
  fields := [("total_duration_ms", .float t.total), ("matching_duration_ms", .float t.matching),
    ("transform_duration_ms", .float t.transform)]

end Timings

end MessageRouting
