import MessageRouting.Schema.Coercion
import MessageRouting.Schema.Entity

/-!
# Limits

What a collection of rules is checked against.
-/

namespace MessageRouting

open Schema

/-- Limits for a collection of rules. -/
structure Limits where
  /-- The most conditions of a rule. -/
  maxConditions : Int
  /-- The most characters of a rule's name. -/
  maxNameLength : Int
  /-- The lowest recommended priority. -/
  minPriority : Int
  /-- The highest recommended priority. -/
  maxPriority : Int
  /-- The most rules of a collection. -/
  maxRules : Int
deriving DecidableEq, Repr, Inhabited

namespace Limits

/-- The limits that hold if nothing else is said. -/
def usual : Limits := ⟨20, 100, 0, 1000, 100⟩

/-- The names of the limits. -/
def names : List String :=
  ["max_conditions", "max_rule_name_length", "min_priority", "max_priority", "max_rules"]

/-- Limits from the members of an object. -/
def checkMembers (ms : Members) : Checked Limits :=
  Limits.mk <$> optional ms "max_conditions" usual.maxConditions (integerFrom 0)
    <*> optional ms "max_rule_name_length" usual.maxNameLength (integerFrom 1)
    <*> optional ms "min_priority" usual.minPriority integer
    <*> optional ms "max_priority" usual.maxPriority integer
    <*> optional ms "max_rules" usual.maxRules (integerFrom 1)

/-- Limits. Other members are refused. -/
def check : Check Limits :=
  record "ValidationSettings" fun ms =>
    ((checkMembers ms).both (closed names ms)).map (·.1)

/-- Limits as a record. -/
def entity (l : Limits) : Entity where
  kind := "ValidationSettings"
  frozen := false
  fields := [("max_conditions", .int l.maxConditions),
    ("max_rule_name_length", .int l.maxNameLength), ("min_priority", .int l.minPriority),
    ("max_priority", .int l.maxPriority), ("max_rules", .int l.maxRules)]

end Limits

end MessageRouting
