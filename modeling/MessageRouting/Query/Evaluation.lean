import MessageRouting.Query.Results

/-!
# Evaluation of queries

`Query.results` gives the results of a query on a datum. Of two operands the right one varies
slowest, of the members of an object the first one. Only `iterate` can go on without an end, so it
alone counts steps.
-/

namespace MessageRouting.Query

open Datum

/-! ## Parts -/

/-- The integer part of a number, as a position; far ones are as good as any other far one. -/
def position (x : Binary64) : Int :=
  match x.toDyadic? with
  | some d =>
    if 0 ≤ d.exponent then d.mantissa * (Nat.pow 2 (min d.exponent 64).toNat : Nat)
    else d.mantissa.tdiv (Nat.pow 2 (-d.exponent).toNat : Nat)
  | none => if x.isNegative then -(Nat.pow 2 40 : Nat) else (Nat.pow 2 40 : Nat)

/-- The item at a position; a negative one counts from the end. -/
def itemAt (ds : List Datum) (n : Int) : Datum :=
  let n := if n < 0 then n + ds.length else n
  if n < 0 then .null else (ds[n.toNat]?).getD .null

/-- The positions at which one list occurs in another. -/
def occurrences (whole part : List Datum) : List Datum :=
  if part.isEmpty then []
  else
    (List.range whole.length).filterMap fun i =>
      let window := (whole.drop i).take part.length
      if compareItems window part = .eq then some (.number (.ofInt i)) else none

/-- The part of a datum at a key. -/
def part (d k : Datum) : Except EvalFault Datum :=
  match d, k with
  | .object ms, .text name => .ok ((memberOf? ms name).getD .null)
  | .array ds, .number x => .ok (if x.isNaN then .null else itemAt ds (position x))
  | .array ds, .array es => .ok (if es.isEmpty then .null else .array (occurrences ds es))
  | .null, .text _ | .null, .number _ | .null, .object _ => .ok .null
  | d, k => .error (.index d k)

/-- All parts of a datum. -/
def parts : Datum → Except EvalFault (List Datum)
  | .array ds => .ok ds
  | .object ms => .ok (ms.map (·.2))
  | d => .error (.iterate d)

/-- All parts as results. -/
def partResults (d : Datum) : Results :=
  match parts d with
  | .ok ds => ⟨ds, .complete⟩
  | .error f => .fail f

/-! ## Operators -/

/-- A double computed by the machine. -/
def compute (f : Float → Float → Float) (x y : Binary64) : Datum :=
  .number (Binary64.ofFloat (f x.toFloat y.toFloat))

/-- The members of both objects, those of the second before those of the first. -/
def union (ms ns : List (String × Datum)) : List (String × Datum) :=
  ns.foldl (fun found n => setMember found n.1 n.2) ms

mutual

/-- The members of both objects; where both hold an object, the union of these. -/
def deepUnion (ms : List (String × Datum)) : List (String × Datum) → List (String × Datum)
  | [] => ms
  | (name, d) :: ns => deepUnion (setMember ms name (deepMember (memberOf? ms name) d)) ns

/-- A member that may replace an object or be united with it. -/
def deepMember (found : Option Datum) : Datum → Datum
  | .object ns =>
    match found with
    | some (.object ms) => .object (deepUnion ms ns)
    | _ => .object ns
  | d => d

end

/-- The sum of two data. -/
def sum : Datum → Datum → Except EvalFault Datum
  | .null, d | d, .null => .ok d
  | .number x, .number y => .ok (compute (· + ·) x y)
  | .text s, .text t => .ok (.text (s ++ t))
  | .array ds, .array es => .ok (.array (ds ++ es))
  | .object ms, .object ns => .ok (.object (union ms ns))
  | d, e => .error (.operands .add d e)

/-- The difference of two data. -/
def difference : Datum → Datum → Except EvalFault Datum
  | .number x, .number y => .ok (compute (· - ·) x y)
  | .array ds, .array es => .ok (.array (ds.filter fun d => es.all fun e => compare d e != .eq))
  | d, e => .error (.operands .subtract d e)

/-- A text repeated; a negative count gives null. -/
def repeated (s : String) (x : Binary64) : Datum :=
  if x.isNaN || (x.isNegative && x.significand ≠ 0) then .null
  else .text (String.join (List.replicate (position x).toNat s))

/-- The product of two data. -/
def product : Datum → Datum → Except EvalFault Datum
  | .number x, .number y => .ok (compute (· * ·) x y)
  | .text s, .number x | .number x, .text s => .ok (repeated s x)
  | .object ms, .object ns => .ok (.object (deepUnion ms ns))
  | d, e => .error (.operands .multiply d e)

/-- The parts of a text between separators. -/
def divided (s separator : String) : List Datum :=
  if s = "" then []
  else if separator = "" then s.toList.map fun c => .text (String.singleton c)
  else (s.splitOn separator).map .text

/-- The quotient of two data. -/
def quotient : Datum → Datum → Except EvalFault Datum
  | .number x, .number y =>
    if y.compare? (.zero false) = some .eq then .error (.zeroDivisor (.number x) (.number y))
    else .ok (compute (· / ·) x y)
  | .text s, .text t => .ok (.array (divided s t))
  | d, e => .error (.operands .divide d e)

namespace Operator

/-- An operator on two data. -/
def apply : Operator → Datum → Datum → Except EvalFault Datum
  | add, d, e => sum d e
  | subtract, d, e => difference d e
  | multiply, d, e => product d e
  | divide, d, e => quotient d e
  | equal, d, e => .ok (.bool (compare d e == .eq))
  | unequal, d, e => .ok (.bool (compare d e != .eq))
  | less, d, e => .ok (.bool (compare d e == .lt))
  | atMost, d, e => .ok (.bool (compare d e != .gt))
  | greater, d, e => .ok (.bool (compare d e == .gt))
  | atLeast, d, e => .ok (.bool (compare d e != .lt))

end Operator

/-! ## Functions -/

/-- The magnitude of a number. -/
def magnitude (x : Binary64) : Binary64 :=
  if x.isNaN then x else .ofMagnitude false (x.bits.toNat % Nat.pow 2 63)

/-- The length of a datum. -/
def length : Datum → Except EvalFault Datum
  | .null => .ok (.number (.zero false))
  | .number x => .ok (.number (magnitude x))
  | .text s => .ok (.number (.ofInt s.length))
  | .array ds => .ok (.number (.ofInt ds.length))
  | .object ms => .ok (.number (.ofInt ms.length))
  | d => .error (.length d)

/-- The keys of a datum. -/
def keys : Datum → Except EvalFault Datum
  | .array ds => .ok (.array ((List.range ds.length).map fun (i : Nat) => .number (.ofInt i)))
  | .object ms => .ok (.array ((sortedNames ms).map .text))
  | d => .error (.keys d)

/-- The items of a list in order. -/
def sorted : Datum → Except EvalFault Datum
  | .array ds => .ok (.array (ds.mergeSort fun d e => compare d e != .gt))
  | d => .error (.sort d)

/-- The sum of all parts. -/
def total (d : Datum) : Except EvalFault Datum := do (← parts d).foldlM sum .null

/-- The text of a datum: a text is itself. -/
def asText : Datum → String
  | .text s => s
  | d => String.ofList d.render

/-- Whether a text begins with another. -/
def beginsWith : Datum → Datum → Except EvalFault Datum
  | .text s, .text t => .ok (.bool (t.toList.isPrefixOf s.toList))
  | _, _ => .error .startsWith

namespace Function

/-- A function on its input. -/
def apply : Function → Datum → Results
  | empty, _ => .none
  | raise, d => .fail (.raised d)
  | length, d => .ofExcept (Query.length d)
  | keys, d => .ofExcept (Query.keys d)
  | add, d => .ofExcept (total d)
  | not, d => .one (.bool !d.holds)
  | sort, d => .ofExcept (sorted d)
  | first, d => .ofExcept (part d (.number (.ofInt 0)))
  | last, d => .ofExcept (part d (.number (.ofInt (-1))))
  | kind, d => .one (.text d.kind)
  | asText, d => .one (.text (Query.asText d))

end Function

/-! ## Queries -/

/-- The results of a step on a datum, on what it gives, and so on: each datum before what follows
from it. -/
def iterations (step : Datum → Results) : Nat → Datum → Results
  | 0, _ => ⟨[], .cut⟩
  | fuel + 1, d => (Results.one d).append ((step d).andThen (iterations step fuel))

/-- An object with one member more. -/
def extended : Datum → Datum → Datum → Results
  | .object ms, .text name, d => .one (.object (setMember ms name d))
  | _, k, _ => .fail (.memberName k)

/-- The opposite of a number. -/
def opposite : Datum → Except EvalFault Datum
  | .number x => .ok (compute (· - ·) (.zero true) x)
  | d => .error (.negative d)

/-- The results of a lenient query have no failure of their own. -/
def leniently (lenient : Bool) (r : Results) : Results := if lenient then r.attempted else r

end Query

open Query in
/-- The results of a query on a datum. `limit` is how often a step is iterated before the query is
cut off. -/
def Query.results (limit : Nat) : Query → Datum → Results
  | .identity, d => .one d
  | .constant c, _ => .one c
  | .index subject key lenient, d =>
    (key.results limit d).andThen fun k =>
      (subject.results limit d).andThen fun s => leniently lenient (.ofExcept (part s k))
  | .each subject lenient, d =>
    (subject.results limit d).andThen fun s => leniently lenient (partResults s)
  | .pipe first next, d => (first.results limit d).andThen (next.results limit)
  | .both first next, d => (first.results limit d).append (next.results limit d)
  | .operation op left right, d =>
    (right.results limit d).andThen fun b =>
      (left.results limit d).andThen fun a => .ofExcept (op.apply a b)
  | .conjunction left right, d =>
    (left.results limit d).andThen fun a =>
      if a.holds then (right.results limit d).andThen fun b => .one (.bool b.holds)
      else .one (.bool false)
  | .disjunction left right, d =>
    (left.results limit d).andThen fun a =>
      if a.holds then .one (.bool true)
      else (right.results limit d).andThen fun b => .one (.bool b.holds)
  | .alternative first next, d => (first.results limit d).orElse (next.results limit d)
  | .branch test yes no, d =>
    (test.results limit d).andThen fun t =>
      if t.holds then yes.results limit d else no.results limit d
  | .attempt body, d => (body.results limit d).attempted
  | .collect body, d => (body.results limit d).collected
  | .withMember object key value, d =>
    (object.results limit d).andThen fun o =>
      (key.results limit d).andThen fun k =>
        (value.results limit d).andThen fun v => extended o k v
  | .negative body, d => (body.results limit d).andThen fun v => .ofExcept (opposite v)
  | .call f, d => f.apply d
  | .map body, d => ((partResults d).andThen (body.results limit)).collected
  | .select body, d => (body.results limit d).andThen fun t => if t.holds then .one d else .none
  | .startsWith body, d =>
    (body.results limit d).andThen fun t => .ofExcept (beginsWith d t)
  | .raise body, d => (body.results limit d).andThen fun v => .fail (.raised v)
  | .iterate body, d => iterations (body.results limit) limit d
  | .firstOf body, d => (body.results limit d).first
  | .lastOf body, d => (body.results limit d).last
  | .unknown _, _ => .none

end MessageRouting
