import MessageRouting.Text.Lowercase
import MessageRouting.Value

/-!
# Log events

Parts of the library report what they do as events. `Log.Threshold` decides which of them are
written, and `Event.record` is what is written of one.
-/

namespace MessageRouting.Log

/-- The weight of an event. -/
inductive Level where
  /-- Details. -/
  | debug
  /-- The course of things. -/
  | info
  /-- Something doubtful. -/
  | warning
  /-- A failure. -/
  | error
  /-- A failure that stops the program. -/
  | critical
deriving DecidableEq, Repr, Inhabited

/-- An event. -/
structure Event where
  /-- Its weight. -/
  level : Level
  /-- What happened. -/
  name : String
  /-- More about it. -/
  details : List (String × Value)
deriving Inhabited

namespace Level

/-- The name of a level. -/
def name : Level → String
  | debug => "debug"
  | info => "info"
  | warning => "warning"
  | error => "error"
  | critical => "critical"

/-- All levels. -/
def all : List Level := [debug, info, warning, error, critical]

/-- The level of a name. -/
def ofName? (s : String) : Option Level := all.find? fun l => l.name = s

/-- The weight of a level as a number. -/
def weight : Level → Nat
  | debug => 10
  | info => 20
  | warning => 30
  | error => 40
  | critical => 50

end Level

/-- The least weight of events that are written. -/
structure Threshold where
  /-- The weight. -/
  weight : Nat
deriving DecidableEq, Repr

namespace Threshold

/-- The names of thresholds; a name that is none of these means `INFO`. -/
def named : List (String × Nat) := [
  ("CRITICAL", 50), ("FATAL", 50), ("ERROR", 40), ("WARN", 30), ("WARNING", 30), ("INFO", 20),
  ("DEBUG", 10), ("NOTSET", 0)]

/-- The threshold of a name, in any case. -/
def ofName (name : String) : Threshold :=
  ⟨(named.lookup (name.map Text.upperAscii)).getD Level.info.weight⟩

/-- Whether an event is written. -/
def passes (t : Threshold) (e : Event) : Bool := t.weight ≤ e.level.weight

end Threshold

namespace Event

/-- The name of the service that writes the log. -/
def service : String := "openhqm-rm"

/-- Sets a member. -/
def put (members : List (String × Value)) (name : String) (v : Value) : List (String × Value) :=
  if members.any fun m => m.1 = name then members.map fun m => if m.1 = name then (name, v) else m
  else members ++ [(name, v)]

/-- What is written of an event, without the time: its details, its name, its level and the
service. -/
def record (e : Event) : List (String × Value) :=
  put (put (put e.details "event" (.text e.name)) "service" (.text service)) "level"
    (.text e.level.name)

end Event

end MessageRouting.Log
