import MessageRouting.Expression
import MessageRouting.Expression.Diagnosis

/-!
# Libraries for queries

Expressions are queries, and a library compiles and runs them. `Library` says no more about it than
what the program sees of it: an expression has a program or there is trouble, and a program on an
input has a first result, none, or trouble. `Library.evaluator` makes an evaluator of expressions of
a library: the outcome is the first result, null if there is none, or a report of what went wrong.
-/

namespace MessageRouting.Query

open Expression

/-- An error text, and the longer text that suggestions are drawn from. -/
structure Report where
  /-- What is shown. -/
  text : String
  /-- What it is about in full. -/
  details : String
deriving DecidableEq, Repr, Inhabited

namespace Report

/-- A text that is about itself. -/
def ofText (text : String) : Report := ⟨text, text⟩

/-- An error of some kind. -/
def ofError (kind text : String) : Report := ofText (Diagnosis.describe kind text)

/-- A fault of data. -/
def ofFault (f : Fault) : Report := ofError f.name f.message

/-- A failed outcome. -/
def outcome (r : Report) : Outcome := .failed (some r.text) (Diagnosis.suggestions r.details)

/-- A verdict against an expression. -/
def verdict (r : Report) : Verdict := ⟨false, some r.text, Diagnosis.suggestions r.details⟩

end Report

/-- Why there is no output. -/
inductive Trouble where
  /-- The expression or its evaluation is at fault. -/
  | reported (r : Report)
  /-- What was given cannot be worked with at all. -/
  | crashed (f : Fault)
deriving Inhabited

/-- The report on a trouble. -/
def Trouble.report : Trouble → Report
  | .reported r => r
  | .crashed f => .ofFault f

/-- The event of an evaluation without an output. -/
def failureEvent (level : Log.Level) (name : String) (expression : Value) (error : String) :
    Log.Event :=
  ⟨level, name, [("expression", expression), ("error", .text error)]⟩

/-- The outcome of an evaluation, with what is logged of it. -/
def conclude (expression : Value) : Except Trouble (Option Value) → Logged Outcome
  | .ok (some v) => ⟨.answered (.ofOutput v), []⟩
  | .ok none =>
    ⟨.answered (.ofOutput .null),
      [⟨.debug, "JQ expression produced no output", [("expression", expression)]⟩]⟩
  | .error (.reported r) =>
    ⟨.answered r.outcome, [failureEvent .warning "JQ evaluation failed" expression r.text]⟩
  | .error (.crashed f) =>
    let r := Report.ofFault f
    ⟨.answered r.outcome, [failureEvent .error "JQ evaluation crashed" expression r.text]⟩

/-- What compiles expressions to programs and runs these. -/
structure Library where
  /-- A program. -/
  Program : Type
  /-- The program of an expression, or why there is none. -/
  compile : Value → Except Trouble Program
  /-- The first result of a program on an input. -/
  run : Program → Value → Except Trouble (Option Value)

namespace Library

/-- The verdict on an expression with a program, or without one. -/
def verdict {α : Type} : Except Trouble α → Reply Verdict
  | .ok _ => .answered ⟨true, none, []⟩
  | .error (.reported r) => .answered r.verdict
  | .error (.crashed f) => .raised f

variable (lib : Library)

/-- The first result of an expression on an input. -/
def execute (expression input : Value) : Except Trouble (Option Value) :=
  lib.compile expression >>= fun p => lib.run p input

/-- An engine without a time budget, as an evaluator of expressions. -/
def evaluator : Evaluator where
  evaluate expression input := conclude expression (lib.execute expression input)
  validate expression := ⟨verdict (lib.compile expression), []⟩

end Library

end MessageRouting.Query
