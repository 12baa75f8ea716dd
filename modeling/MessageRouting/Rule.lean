import MessageRouting.Condition

/-!
# Rules

A rule directs the messages that meet its conditions to a destination, and may transform their
payload. `Rule.check` accepts exactly the objects that describe a rule; what it leaves out has a
default.
-/

namespace MessageRouting

open Schema

/-- An expression that rewrites the payload of a matched message. -/
structure Transform where
  /-- Whether it is applied. -/
  enabled : Bool
  /-- The expression. -/
  expression : String
deriving DecidableEq, Repr, Inhabited

/-- How a rule combines its conditions. -/
inductive Combination where
  /-- All of them have to hold. -/
  | all
  /-- One of them has to hold. -/
  | any
deriving DecidableEq, Repr, Inhabited

/-- A routing rule. -/
structure Rule where
  /-- Its name. -/
  name : String
  /-- What it is for. -/
  description : Option String
  /-- Whether it takes part in routing. -/
  enabled : Bool
  /-- Rules of higher priority are tried first. -/
  priority : Int
  /-- What a message has to meet; without conditions every message does. -/
  conditions : List Condition
  /-- How the conditions are combined. -/
  combination : Combination
  /-- How the payload is rewritten. -/
  transform : Option Transform
  /-- Where matched messages go. -/
  destination : String
deriving Inhabited

namespace Transform

/-- A transform. -/
def check : Check Transform :=
  record "Transform" fun ms =>
    Transform.mk <$> optional ms "enabled" true boolean <*> required ms "jq_expression" filledText

/-- A transform as a record. -/
def entity (t : Transform) : Entity :=
  ⟨"Transform", true, [("enabled", .bool t.enabled), ("jq_expression", .text t.expression)]⟩

end Transform

namespace Combination

/-- The name of a combination. -/
def name : Combination → String
  | all => "AND"
  | any => "OR"

/-- The combination of results; no results at all always hold. -/
def holds (c : Combination) (results : List Bool) : Bool :=
  results.isEmpty ||
    match c with
    | all => results.all id
    | any => results.any id

end Combination

namespace Rule

/-- The priority of rules that give none. -/
def usualPriority : Int := 100

/-- A rule. -/
def check [Interpreter] : Check Rule :=
  record "Rule" fun ms =>
    Rule.mk <$> required ms "name" filledText
      <*> optional ms "description" none (nullable text)
      <*> optional ms "enabled" true boolean
      <*> optional ms "priority" usualPriority integer
      <*> optional ms "conditions" [] (listOf Condition.check)
      <*> optional ms "condition_operator" .all
        (enumeration [(Combination.all.name, .all), (Combination.any.name, .any)])
      <*> optional ms "transform" none (nullable Transform.check)
      <*> required ms "destination" filledText

/-- Whether a rule has a name, a destination, well-formed conditions and an expression in its
transform. -/
def wellFormed (r : Rule) : Bool :=
  r.name ≠ "" && r.destination ≠ "" && r.conditions.all Condition.wellFormed &&
    r.transform.all fun t => t.expression ≠ ""

theorem wellFormed_conditions {r : Rule} (h : r.wellFormed = true) :
    ∀ c ∈ r.conditions, c.wellFormed = true := by
  simp only [wellFormed, Bool.and_eq_true, List.all_eq_true] at h
  exact h.1.2

/-- A rule as a record. -/
def entity (r : Rule) : Entity where
  kind := "Rule"
  frozen := true
  fields := [
    ("name", .text r.name), ("description", Value.textOrNull r.description),
    ("enabled", .bool r.enabled), ("priority", .int r.priority),
    ("conditions", .list (r.conditions.map Condition.toValue)),
    ("condition_operator", .text r.combination.name),
    ("transform", (r.transform.map fun t => t.entity.toValue).getD .null),
    ("destination", .text r.destination)]

/-- A rule as a value. -/
def toValue (r : Rule) : Value := r.entity.toValue

end Rule

end MessageRouting
