import MessageRouting.Query

/-!
# Results of queries

A query gives a sequence of data and then ends: it is complete, it has failed, or it was cut off
because it did not end by itself. `Results.andThen` continues each result of a sequence.
-/

namespace MessageRouting.Query

/-- Why an evaluation fails. -/
inductive EvalFault where
  /-- A container has no part at such a key. -/
  | index (subject key : Datum)
  /-- Something without parts. -/
  | iterate (d : Datum)
  /-- Something without a length. -/
  | length (d : Datum)
  /-- Something without keys. -/
  | keys (d : Datum)
  /-- Something that is no list. -/
  | sort (d : Datum)
  /-- Operands that an operator does not take. -/
  | operands (op : Operator) (left right : Datum)
  /-- A divisor of zero. -/
  | zeroDivisor (left right : Datum)
  /-- A member name that is no text. -/
  | memberName (d : Datum)
  /-- An opposite of something that is no number. -/
  | negative (d : Datum)
  /-- A beginning of, or with, something that is no text. -/
  | startsWith
  /-- What the query itself fails with. -/
  | raised (d : Datum)
deriving Inhabited

namespace EvalFault

/-- What cannot be done with operands of an operator. -/
def participle : Operator → String
  | .add => "added"
  | .subtract => "subtracted"
  | .multiply => "multiplied"
  | .divide => "divided"
  | _ => "compared"

/-- The wording of a fault. -/
def message : EvalFault → String
  | index d k => "Cannot index " ++ d.kind ++ " with " ++ k.described
  | iterate d => "Cannot iterate over " ++ d.described
  | length d => d.described ++ " has no length"
  | keys d => d.described ++ " has no keys"
  | sort d => d.described ++ " cannot be sorted, as it is not an array"
  | operands op a b =>
    a.described ++ " and " ++ b.described ++ " cannot be " ++ participle op
  | zeroDivisor a b =>
    a.described ++ " and " ++ b.described ++
      " cannot be divided because the divisor is zero"
  | memberName d => "Cannot use " ++ d.described ++ " as object key"
  | negative d => d.described ++ " cannot be negated"
  | startsWith => "startswith() requires string inputs"
  | raised (.text s) => s
  | raised d => String.ofList d.render

end EvalFault

/-- How a sequence of results ends. -/
inductive Ending where
  /-- By itself. -/
  | complete
  /-- With a fault. -/
  | failed (f : EvalFault)
  /-- Not within the given number of steps. -/
  | cut
deriving Inhabited

/-- A sequence of results. -/
structure Results where
  /-- The results. -/
  data : List Datum
  /-- How it ends. -/
  ending : Ending
deriving Inhabited

namespace Results

/-- No result. -/
def none : Results := ⟨[], .complete⟩

/-- One result. -/
def one (d : Datum) : Results := ⟨[d], .complete⟩

/-- A failure. -/
def fail (f : EvalFault) : Results := ⟨[], .failed f⟩

/-- A result, or a failure. -/
def ofExcept : Except EvalFault Datum → Results
  | .ok d => one d
  | .error f => fail f

/-- One sequence after another; the second only counts if the first is complete. -/
def append (r s : Results) : Results :=
  match r.ending with
  | .complete => ⟨r.data ++ s.data, s.ending⟩
  | _ => r

/-- The continuations of data in turn, up to the first that is not complete. -/
def concat (f : Datum → Results) (last : Ending) : List Datum → Results
  | [] => ⟨[], last⟩
  | d :: ds =>
    match f d with
    | ⟨found, .complete⟩ =>
      let rest := concat f last ds
      ⟨found ++ rest.data, rest.ending⟩
    | stopped => stopped

/-- Each result continued. -/
def andThen (r : Results) (f : Datum → Results) : Results := concat f r.ending r.data

/-- The first result of a sequence. -/
def first (r : Results) : Results :=
  match r.data with
  | d :: _ => one d
  | [] => r

/-- The last result of a complete sequence. -/
def last (r : Results) : Results :=
  match r.ending with
  | .complete => ⟨r.data.getLast?.toList, .complete⟩
  | e => ⟨[], e⟩

/-- The list of the results of a complete sequence. -/
def collected (r : Results) : Results :=
  match r.ending with
  | .complete => one (.array r.data)
  | e => ⟨[], e⟩

/-- The results, whatever failure follows them. -/
def attempted (r : Results) : Results :=
  match r.ending with
  | .failed _ => ⟨r.data, .complete⟩
  | _ => r

/-- The results that hold, or those of another sequence if there are none. -/
def orElse (r s : Results) : Results :=
  match r.data.filter Datum.holds, r.ending with
  | [], .complete => s
  | found, e => ⟨found, e⟩

end Results

end MessageRouting.Query
