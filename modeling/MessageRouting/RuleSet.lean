import MessageRouting.Rule

/-!
# Rule sets

A rule set is a version with rules whose names differ. `RuleSet.ofValue` takes it from an object, or
from a list that is the list of its rules.
-/

namespace MessageRouting

open Schema

/-- Rules with a version. -/
structure RuleSet where
  /-- The version of the set. -/
  version : String
  /-- The rules, in their order. -/
  rules : List Rule

namespace RuleSet

/-- The first name that stood earlier in a list. -/
def firstRepeated : List String → List String → Option String
  | _, [] => none
  | seen, n :: ns => if seen.contains n then some n else firstRepeated (n :: seen) ns

/-- Rules with different names. -/
def uniquelyNamed (rules : List Rule) : Checked (List Rule) :=
  match firstRepeated [] (rules.map (·.name)) with
  | some name => .reject (.rule ("Duplicate rule name '" ++ name ++ "'"))
  | none => .accepted rules

/-- A rule set from the members of an object. -/
def checkMembers [Interpreter] (ms : Members) : Checked RuleSet :=
  RuleSet.mk <$> optional ms "version" "1.0" text
    <*> optional ms "rules" [] fun v => (listOf Rule.check v).andThen uniquelyNamed

/-- Why data is not a rule set. -/
inductive Fault where
  /-- Neither an object nor a list. -/
  | shape
  /-- Parts that do not fit. -/
  | invalid (complaints : List Complaint)

/-- The members that describe a rule set: those of an object, or a list as its rules. -/
def membersOf : Value → Option Members
  | .object ms => some ms
  | .list vs => some [(.text "rules", .list vs)]
  | _ => none

/-- The rule set that data describes. -/
def ofValue [Interpreter] (v : Value) : Except Fault RuleSet :=
  match membersOf v with
  | none => .error .shape
  | some ms =>
    match checkMembers ms with
    | .accepted s => .ok s
    | .rejected cs => .error (.invalid cs)

/-- A rule set as a record. -/
def entity (s : RuleSet) : Entity :=
  ⟨"RuleSet", false,
    [("version", .text s.version), ("rules", .list (s.rules.map Rule.toValue))]⟩

end RuleSet

end MessageRouting
