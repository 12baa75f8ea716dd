import MessageRouting.Routing

/-!
# Histories

A history keeps the latest results of routing runs, newest first and no more than its capacity, and
points to one of them as the current one. Recording a result makes it current; a selection that
names no kept result changes nothing.
-/

namespace MessageRouting

/-- A result with its name. -/
structure Recorded where
  /-- The name, by which the result is looked up. -/
  id : Nat
  /-- The result. -/
  result : RunResult
deriving Inhabited

/-- The latest results of runs. -/
structure History where
  /-- How many results are kept. -/
  capacity : Nat
  /-- At least one result is kept. -/
  capacity_pos : 0 < capacity
  /-- The results, newest first. -/
  results : List Recorded
  /-- The result that is pointed to. -/
  current : Option Recorded

namespace History

/-- An empty history. -/
def empty (capacity : Nat) (h : 0 < capacity) : History := ⟨capacity, h, [], none⟩

/-- The history that is kept if nothing else is said. -/
def usual : History := empty 10 (by decide)

/-- The greatest capacity. -/
def maxCapacity : Nat := Nat.pow 2 63 - 1

/-- An empty history of a size. -/
def ofSize (n : Int) (shown : String) : Except Fault History :=
  if h : 0 < n.toNat then
    if n.toNat ≤ maxCapacity then .ok (empty n.toNat h) else .error .sizeLimit
  else .error (.historySize shown)

/-- An empty history of a size that may be anything; null means the usual one. -/
def ofValue [Interpreter] (size : Value) : Except Fault History :=
  match size with
  | .null => .ok usual
  | .int n => do ofSize n (← size.plainText)
  | .bool b => do ofSize (Scalar.ofBool b) (← size.plainText)
  | .float x => do
    if x.compare? (.ofInt 1) = some .lt then throw (.historySize (← size.plainText))
    else throw (.wrongKind "an integer is required")
  | v => .error (.notOrdered "<" v.kind "int")

/-- Puts a result in front and makes it current; the oldest one may be dropped. -/
def record (h : History) (r : Recorded) : History :=
  { h with results := (r :: h.results).take h.capacity, current := some r }

/-- The result of a name. -/
def get? (h : History) (id : Nat) : Option Recorded := h.results.find? fun r => r.id = id

/-- Makes the result of a name current. -/
def select (h : History) (id : Nat) : History × Option Recorded :=
  match h.get? id with
  | some r => ({ h with current := some r }, some r)
  | none => (h, none)

/-- Drops all results. -/
def clear (h : History) : History := { h with results := [], current := none }

@[simp] theorem results_record (h : History) (r : Recorded) :
    (h.record r).results = (r :: h.results).take h.capacity := rfl

@[simp] theorem current_record (h : History) (r : Recorded) :
    (h.record r).current = some r := rfl

@[simp] theorem results_select (h : History) (id : Nat) : (h.select id).1.results = h.results := by
  unfold select
  split <;> rfl

@[simp] theorem results_clear (h : History) : h.clear.results = [] := rfl

end History

end MessageRouting
