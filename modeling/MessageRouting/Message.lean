import MessageRouting.Schema.Coercion
import MessageRouting.Schema.Entity

/-!
# Messages

What is routed: a body of any shape, headers, which are texts, and metadata.
-/

namespace MessageRouting

open Schema

/-- A message. -/
structure Message where
  /-- The body. -/
  payload : Value
  /-- The headers. -/
  headers : List (String × String)
  /-- The metadata, an object. -/
  metadata : Members
deriving Inhabited

namespace Message

/-- Sets a member: a name that is there keeps its place. -/
def put {α : Type} (members : List (String × α)) (m : String × α) : List (String × α) :=
  if members.any fun n => n.1 = m.1 then members.map fun n => if n.1 = m.1 then m else n
  else members ++ [m]

/-- Checks the members of an object one by one. -/
def checkMembers {α : Type} (check : Check α) : Members → Checked (List (String × α))
  | [] => .accepted []
  | (name, v) :: ms =>
    let step := PlaceStep.member (match name with
      | .text s => s
      | _ => "[key]")
    ((((text (.scalar name)).both (check v)).within step).both (checkMembers check ms)).map
      fun (m, rest) => m :: rest

/-- An object with members that another check accepts. -/
def membersOf {α : Type} (check : Check α) : Check (List (String × α))
  | .object ms => (checkMembers check ms).map fun checked => checked.foldl put []
  | _ => .reject .object

/-- Metadata: any object whose names are texts. -/
def checkMetadata : Check Members := fun v =>
  (membersOf anything v).map fun ms => ms.map fun (name, v) => (.text name, v)

/-- A message. What is left out is empty. -/
def check : Check Message :=
  record "ExecutionContext" fun ms =>
    Message.mk <$> optional ms "payload" (.object []) anything
      <*> optional ms "headers" [] (membersOf text)
      <*> optional ms "metadata" [] checkMetadata

/-- A message that holds nothing. -/
def empty : Message := ⟨.object [], [], []⟩

/-- A message as a record. -/
def entity (m : Message) : Entity where
  kind := "ExecutionContext"
  frozen := true
  fields := [("payload", m.payload),
    ("headers", .record (m.headers.map fun (name, text) => (name, .text text))),
    ("metadata", .object m.metadata)]

end Message

end MessageRouting
