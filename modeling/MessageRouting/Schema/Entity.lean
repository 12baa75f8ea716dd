import MessageRouting.Schema

/-!
# Records with named fields

An entity is a record seen from outside: the name of its kind, its fields with their values, and
whether fields can be set afterwards. A value that is set is not checked.
-/

namespace MessageRouting.Schema

/-- A record as a list of fields. -/
structure Entity where
  /-- The name of its kind. -/
  kind : String
  /-- Whether its fields cannot be set. -/
  frozen : Bool
  /-- The fields in the order of their declaration. -/
  fields : List (String × Value)

/-- Why a field could not be set. -/
inductive AssignmentFault where
  /-- The record does not change. -/
  | frozen (complaint : Complaint)
  /-- There is no such field. -/
  | noField (kind name : String)

namespace Entity

/-- The fields as an object. -/
def toValue (e : Entity) : Value := .record e.fields

/-- Sets a field. -/
def assign (e : Entity) (name : String) (v : Value) : Except AssignmentFault Entity :=
  if e.frozen then .error (.frozen ⟨[.member name], .frozen⟩)
  else if (e.fields.lookup name).isNone then .error (.noField e.kind name)
  else .ok { e with fields := e.fields.map fun (n, w) => if n = name then (n, v) else (n, w) }

end Entity

/-- The wording for a field that does not exist. -/
def AssignmentFault.message : AssignmentFault → String
  | frozen c => c.cause.message
  | noField kind name => "\"" ++ kind ++ "\" object has no field \"" ++ name ++ "\""

end MessageRouting.Schema
