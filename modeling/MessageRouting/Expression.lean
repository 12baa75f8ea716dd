import MessageRouting.Fault
import MessageRouting.Log
import MessageRouting.Schema.Coercion
import MessageRouting.Schema.Entity

/-!
# Expressions

Conditions and transforms can be expressions. What evaluates them is a capability: an
`Expression.Evaluator` takes an expression and an input and answers with an outcome, or raises. One
with a memory or a time budget need not answer a question twice alike: an `Expression.Course` says
what it is at each moment.
-/

namespace MessageRouting.Expression

open Schema

/-- What an evaluation gave. -/
structure Outcome where
  /-- Whether it succeeded. -/
  success : Bool
  /-- The first result. -/
  output : Value
  /-- Why it failed. -/
  error : Option String
  /-- What may help. -/
  suggestions : List String
deriving Inhabited

/-- What a check of an expression gave. -/
structure Verdict where
  /-- Whether the expression can be evaluated at all. -/
  valid : Bool
  /-- Why not. -/
  error : Option String
  /-- What may help. -/
  suggestions : List String
deriving DecidableEq, Repr, Inhabited

/-- An answer, or a fault instead of one. -/
inductive Reply (α : Type) where
  /-- An answer. -/
  | answered (a : α)
  /-- The evaluator raised. -/
  | raised (fault : Fault)

/-- A reply, with what was logged on the way. -/
structure Logged (α : Type) where
  /-- The reply. -/
  reply : Reply α
  /-- The events, in their order. -/
  log : List Log.Event

/-- What evaluates expressions. An expression is usually a text. -/
structure Evaluator where
  /-- Evaluates an expression on an input. -/
  evaluate : Value → Value → Logged Outcome
  /-- Checks an expression. -/
  validate : Value → Logged Verdict

/-- An evaluator in the course of time. -/
abbrev Course := Nat → Evaluator

namespace Course

/-- An evaluator that stays as it is. -/
def constant (ev : Evaluator) : Course := fun _ => ev

/-- The course from a moment on. -/
def after (c : Course) (moment : Nat) : Course := fun n => c (moment + n)

end Course

namespace Outcome

/-- An evaluation that succeeded. -/
def ofOutput (v : Value) : Outcome := ⟨true, v, none, []⟩

/-- An evaluation that failed. -/
def failed (error : Option String) (suggestions : List String) : Outcome :=
  ⟨false, .null, error, suggestions⟩

/-- An outcome. -/
def check : Check Outcome :=
  record "TransformResult" fun ms =>
    Outcome.mk <$> required ms "success" boolean
      <*> optional ms "output" .null anything
      <*> optional ms "error" none (nullable text)
      <*> optional ms "suggestions" [] (listOf text)

/-- An outcome as a record. -/
def entity (o : Outcome) : Entity where
  kind := "TransformResult"
  frozen := false
  fields := [("success", .bool o.success), ("output", o.output),
    ("error", Value.textOrNull o.error), ("suggestions", .list (o.suggestions.map .text))]

end Outcome

namespace Verdict

/-- A verdict. -/
def check : Check Verdict :=
  record "ValidationResult" fun ms =>
    Verdict.mk <$> required ms "valid" boolean
      <*> optional ms "error" none (nullable text)
      <*> optional ms "suggestions" [] (listOf text)

/-- A verdict as a record. -/
def entity (v : Verdict) : Entity where
  kind := "ValidationResult"
  frozen := false
  fields := [("valid", .bool v.valid), ("error", Value.textOrNull v.error),
    ("suggestions", .list (v.suggestions.map .text))]

end Verdict

end MessageRouting.Expression
