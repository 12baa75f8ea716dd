import MessageRouting.Schema.Coercion
import MessageRouting.Schema.Entity

/-!
# Issues

What a routing run or a check of rules has to tell its reader: errors and warnings, with the place
where they arose and a suggestion.
-/

namespace MessageRouting

open Schema

/-- How bad an issue is. -/
inductive Severity where
  /-- Something failed. -/
  | error
  /-- Something is doubtful. -/
  | warning
deriving DecidableEq, Repr, Inhabited

/-- An error or a warning. -/
structure Issue where
  /-- How bad it is. -/
  severity : Severity
  /-- What went wrong. -/
  message : String
  /-- Where it arose. -/
  context : Option String
  /-- What may help. -/
  suggestion : Option String
deriving DecidableEq, Repr, Inhabited

namespace Severity

/-- The name of a severity. -/
def name : Severity → String
  | error => "error"
  | warning => "warning"

end Severity

namespace Issue

/-- The kind of issues as records. -/
def recordKind : String := "SimulationIssue"

/-- A warning. -/
def warn (context message : String) (suggestion : Option String) : Issue :=
  ⟨.warning, message, some context, suggestion⟩

/-- An error. -/
def fail (context message : String) (suggestion : Option String) : Issue :=
  ⟨.error, message, some context, suggestion⟩

/-- An issue. -/
def check : Check Issue :=
  record recordKind fun ms =>
    Issue.mk <$> required ms "severity"
        (enumeration [(Severity.error.name, .error), (Severity.warning.name, .warning)])
      <*> required ms "message" text
      <*> optional ms "context" none (nullable text)
      <*> optional ms "suggestion" none (nullable text)

/-- An issue as a record. -/
def entity (i : Issue) : Entity where
  kind := recordKind
  frozen := false
  fields := [("severity", .text i.severity.name), ("message", .text i.message),
    ("context", Value.textOrNull i.context), ("suggestion", Value.textOrNull i.suggestion)]

/-- An issue as a value. -/
def toValue (i : Issue) : Value := i.entity.toValue

end Issue

end MessageRouting
