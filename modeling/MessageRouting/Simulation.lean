import MessageRouting.Case
import MessageRouting.History

/-!
# Simulations

A simulation routes messages and records each result in a history. Results are named by numbers in
the order in which they are made, so no two have the same name. A run that is broken off leaves no
result.
-/

namespace MessageRouting

open Expression

/-- A history that is being written. -/
structure Simulation where
  /-- The latest results. -/
  history : History
  /-- How many results have been made. -/
  made : Nat

/-- Why a case gave nothing. -/
inductive CaseFault where
  /-- The run was broken off. -/
  | halted (h : Halt)
  /-- The result cannot be compared with what was expected. -/
  | incomparable (f : Fault)

/-- What a case gave. -/
structure CaseOutcome where
  /-- The name of the case. -/
  caseName : String
  /-- How the result differs from what was expected. -/
  mismatches : List String
  /-- The result. -/
  recorded : Recorded

namespace CaseOutcome

/-- A case is passed if nothing differs. -/
def passed (o : CaseOutcome) : Bool := o.mismatches.isEmpty

end CaseOutcome

/-- What went wrong with a case. -/
def CaseFault.cause : CaseFault → Fault
  | halted h => h.fault
  | incomparable f => f

namespace Simulation

variable [Interpreter]

/-- A simulation that starts with a history. -/
def start (h : History) : Simulation := ⟨h, 0⟩

/-- Records a result. -/
def record (s : Simulation) (r : RunResult) : Simulation × Recorded :=
  let made := Recorded.mk s.made r
  (⟨s.history.record made, s.made + 1⟩, made)

/-- Routes a message. -/
def run (ev : Evaluator) (rules : List Rule) (m : Message) (s : Simulation) :
    Simulation × Except Halt Recorded :=
  match runOnce ev rules m with
  | .error h => (s, .error h)
  | .ok r =>
    let (s, made) := s.record r.result
    (s, .ok made)

/-- The outcome of a case that gave a result. -/
def compared (c : Case) (made : Recorded) : Except CaseFault CaseOutcome :=
  let mismatches := match c.expected with
    | some e => e.mismatches made.result
    | none => .ok []
  (mismatches.map fun found => ⟨c.name, found, made⟩).mapError .incomparable

/-- Runs a case. The result is recorded also if it cannot be compared. -/
def runCase (ev : Evaluator) (rules : List Rule) (c : Case) (s : Simulation) :
    Simulation × Except CaseFault CaseOutcome :=
  let (s, made) := s.run ev rules c.message
  (s, made.mapError .halted >>= compared c)

/-- Runs cases in turn, up to the first that gives nothing. -/
def runCases (ev : Evaluator) (rules : List Rule) :
    List Case → Simulation → Simulation × Except CaseFault (List CaseOutcome)
  | [], s => (s, .ok [])
  | c :: cs, s =>
    match s.runCase ev rules c with
    | (s, .error f) => (s, .error f)
    | (s, .ok o) =>
      let (s, rest) := runCases ev rules cs s
      (s, rest.map (o :: ·))

/-- Makes a result current. -/
def select (s : Simulation) (id : Nat) : Simulation × Option Recorded :=
  let (h, found) := s.history.select id
  ({ s with history := h }, found)

/-- Drops all results. -/
def clear (s : Simulation) : Simulation := { s with history := s.history.clear }

end Simulation

end MessageRouting
