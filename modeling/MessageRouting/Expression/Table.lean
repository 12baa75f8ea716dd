import MessageRouting.Expression
import MessageRouting.Value.Literal

/-!
# Tables of answers

An evaluator that knows a fixed set of expressions and what each of them answers. It stands in for
a real one where runs have to be predictable.
-/

namespace MessageRouting.Expression

/-- What a table says about an expression. -/
inductive TableEntry where
  /-- It raises with a text. -/
  | raises (text : String)
  /-- It succeeds with its input. -/
  | echoes
  /-- It has a fixed outcome and a fixed verdict. -/
  | answers (outcome : Outcome) (verdict : Verdict)

/-- Expressions with what they answer. -/
abbrev Table := List (String × TableEntry)

namespace Table

/-- The suggestion for an expression that is not in a table. -/
def advice : String := "Check for unmatched quotes or brackets"

section Answers

variable [Interpreter]

/-- An expression as the error about it shows it. -/
def unknown (expression : Value) : Except Fault String := do
  match expression with
  | .list _ | .object _ | .set _ => throw (.unhashable expression.kind)
  | v => return "syntax error: " ++ (← v.plainText)

/-- What a table says about an expression, or the error about one that it does not know. -/
def find (t : Table) (expression : Value) : Except Fault (TableEntry ⊕ String) :=
  match expression with
  | .text s =>
    match t.lookup s with
    | some e => .ok (.inl e)
    | none => (unknown expression).map .inr
  | v => (unknown v).map .inr

/-- Evaluates by looking up. -/
def evaluate (t : Table) (expression input : Value) : Reply Outcome :=
  match t.find expression with
  | .error f => .raised f
  | .ok (.inr error) => .answered (.failed (some error) [advice])
  | .ok (.inl (.raises text)) => .raised (.raised text)
  | .ok (.inl .echoes) => .answered (.ofOutput input)
  | .ok (.inl (.answers outcome _)) => .answered outcome

/-- Checks by looking up. -/
def validate (t : Table) (expression : Value) : Reply Verdict :=
  match t.find expression with
  | .error f => .raised f
  | .ok (.inr error) => .answered ⟨false, some error, [advice]⟩
  | .ok (.inl (.raises text)) => .raised (.raised text)
  | .ok (.inl .echoes) => .answered ⟨true, none, []⟩
  | .ok (.inl (.answers _ verdict)) => .answered verdict

/-- A table as an evaluator. It logs nothing. -/
def evaluator (t : Table) : Evaluator where
  evaluate expression input := ⟨t.evaluate expression input, []⟩
  validate expression := ⟨t.validate expression, []⟩

end Answers

end Table

end MessageRouting.Expression
