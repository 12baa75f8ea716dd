import MessageRouting.Query.Evaluation
import MessageRouting.Query.Library
import MessageRouting.Query.Reader

/-!
# A library for basic queries

`Query.basic` is a library for a part of the query language: paths, constants, operators and a few
functions. Nothing that is stated about libraries depends on it; it serves where a query has to be
run and no other library is at hand.
-/

namespace MessageRouting.Query

open Expression

/-- A defect of an expression. -/
def Report.ofDefect (d : Defect) : Report :=
  ⟨Diagnosis.cleanText d.message, Diagnosis.cleanText d.details⟩

/-- A fault of an evaluation. -/
def Report.ofEvalFault (f : EvalFault) : Report := .ofError "ValueError" f.message

/-- The report on a query that iterates more often than it may. -/
def endless : Report := .ofText "the query does not come to an end"

/-- The query that an expression denotes. Where queries are kept, an expression has to be something
that can be looked up. -/
def compile (keepsQueries : Bool) (expression : Value) : Except Trouble Query :=
  match expression with
  | .text s => (read s.toList).mapError fun d => .reported (.ofDefect d)
  | .list _ | .object _ | .set _ =>
    .error (.crashed (if keepsQueries then .unhashable expression.kind
      else .noAttribute expression.kind "encode"))
  | v => .error (.crashed (.noAttribute v.kind "encode"))

/-- An input as a datum. An integer of too many digits is reported. -/
def takeIn [Interpreter] (input : Value) : Except Trouble Datum :=
  match Interpreter.writing.enter input.height, Datum.ofValue input with
  | .error f, _ => .error (.crashed f)
  | .ok (), .ok d => .ok d
  | .ok (), .error .digitLimit => .error (.reported (.ofFault .digitLimit))
  | .ok (), .error f => .error (.crashed f)

/-- The first result, if there is one. -/
def firstResult (r : Results) : Except Trouble (Option Value) :=
  match r.data, r.ending with
  | d :: _, _ => .ok (some d.toValue)
  | [], .complete => .ok none
  | [], .failed f => .error (.reported (.ofEvalFault f))
  | [], .cut => .error (.reported endless)

/-- The library for basic queries. `limit` is how often a query may iterate. -/
def basic [Interpreter] (keepsQueries : Bool) (limit : Nat) : Library where
  Program := Query
  compile := compile keepsQueries
  run q input := do
    let d ← takeIn input
    firstResult (q.results limit d)

/-- The library for basic queries that keeps queries. -/
def standard [Interpreter] : Library := basic true 1000

end MessageRouting.Query
