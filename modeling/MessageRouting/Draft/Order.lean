import MessageRouting.Draft

/-!
# Ordering drafts

Drafts can have priorities that do not compare. They are ordered by comparing a new element with
the middle of what is already in order, and so on by halves; the first comparison without an answer
ends the ordering.
-/

namespace MessageRouting

/-- Whether a moment is earlier than another one. Days compare with days, and times with times that
have an offset if they have one. -/
def Moment.less : Moment → Moment → Except Fault Bool
  | .day d, .day e => .ok (decide (d.dayNumber < e.dayNumber))
  | .time d t none, .time e u none => .ok (decide (instant d t 0 < instant e u 0))
  | .time d t (some o), .time e u (some p) => .ok (decide (instant d t o < instant e u p))
  | .time .., .time .. =>
    .error (.wrongKind "can't compare offset-naive and offset-aware datetimes")
  | _, _ => .error (.wrongKind "can't compare datetime.datetime to datetime.date")

namespace Scalar

/-- A number to compare. -/
def toNumber? : Scalar → Option (Int ⊕ Binary64)
  | .bool b => some (.inl (Scalar.ofBool b))
  | .int n => some (.inl n)
  | .float x => some (.inr x)
  | _ => none

/-- Comparison of numbers; a NaN compares with nothing. -/
def compareNumbers? : Int ⊕ Binary64 → Int ⊕ Binary64 → Option Ordering
  | .inl m, .inl n => some (compare m n)
  | .inl m, .inr y => Binary64.compareInt? m y
  | .inr x, .inl n => (Binary64.compareInt? n x).map Ordering.swap
  | .inr x, .inr y => x.compare? y

/-- The code points of a text. -/
def codes? : Scalar → Option (List Nat)
  | .text s => some (s.toList.map Char.toNat)
  | .broken codes => some codes
  | _ => none

/-- Whether a scalar is less than another one, if the two have an order. -/
def less (s t : Scalar) : Except Fault Bool :=
  match s, t with
  | .moment m, .moment n => m.less n
  | .bytes a, .bytes b => .ok (decide (a.map UInt8.toNat < b.map UInt8.toNat))
  | s, t =>
    match s.toNumber?, t.toNumber?, s.codes?, t.codes? with
    | some a, some b, _, _ => .ok (compareNumbers? a b = some .lt)
    | _, _, some cs, some ds => .ok (decide (cs < ds))
    | _, _, _, _ => .error (.notOrdered "<" s.kind t.kind)

end Scalar

namespace Value

variable [Interpreter]

mutual

/-- Whether a value is less than another one, if the two have an order: numbers, texts, bytes and
dates have one, lists and pairs are ordered by the first parts that differ, and sets by inclusion.
The comparison can go `room` levels deep. -/
def lessIn (room : Nat) : Value → Value → Except Fault Bool
  | .scalar s, .scalar t => s.less t
  | .list xs, .list ys => lessItemsIn room xs ys
  | .set es, .set fs =>
    .ok (es.all (fun e => fs.any fun f => f.sameName e) && !sameElements es fs)
  | .pair v w, .pair v' w' =>
    match room with
    | 0 => .error Interpreter.ordering.fault
    | deeper + 1 => do
      if ← alikeIn deeper v v' then
        if ← alikeIn deeper w w' then return false else lessIn deeper w w'
      else lessIn deeper v v'
  | v, w => .error (.notOrdered "<" v.kind w.kind)

/-- Whether items come before other ones. -/
def lessItemsIn (room : Nat) : List Value → List Value → Except Fault Bool
  | _, [] => .ok false
  | [], _ :: _ => .ok true
  | v :: vs, w :: ws =>
    match room with
    | 0 => .error Interpreter.ordering.fault
    | deeper + 1 => do
      if ← alikeIn deeper v w then lessItemsIn (deeper + 1) vs ws else lessIn deeper v w

end

/-- Whether a value is less than another one. -/
def less (v w : Value) : Except Fault Bool := lessIn Interpreter.ordering.depth v w

/-- Whether a value lies between two integers. -/
def isWithin (low high : Int) (v : Value) : Except Fault Bool :=
  match v with
  | .scalar s =>
    match s.toNumber? with
    | some a =>
      .ok ((Scalar.compareNumbers? (.inl low) a).any Ordering.isLE &&
        (Scalar.compareNumbers? a (.inl high)).any Ordering.isLE)
    | none => .error (.notOrdered "<=" (Value.int low).kind v.kind)
  | v => .error (.notOrdered "<=" (Value.int low).kind v.kind)

end Value

namespace Attribute

variable [Interpreter]

/-- Whether an attribute is less than another one. -/
def less : Attribute → Attribute → Except Fault Bool
  | value v, value w => v.less w
  | foreign o, value w => o.before (.inl w)
  | value v, foreign o => o.after v
  | foreign o, foreign p => o.before (.inr p.identity)

/-- Whether an attribute lies between two integers. -/
def isWithin (low high : Int) : Attribute → Except Fault Bool
  | value v => v.isWithin low high
  | foreign o => o.isWithin low high

end Attribute

namespace DraftRule

variable [Interpreter]

/-- Compares two drafts by priority. -/
def before (a b : DraftRule) : Except Fault Bool := a.priority.less b.priority

/-- The place of a draft among ordered ones, between two positions. -/
def placeAmong (sorted : Array DraftRule) (r : DraftRule) :
    Nat → Nat → Nat → Except Fault Nat
  | 0, low, _ => .ok low
  | fuel + 1, low, high => do
    if high ≤ low then return low
    let middle := low + (high - low) / 2
    match sorted[middle]? with
    | none => return low
    | some s =>
      if ← before r s then placeAmong sorted r fuel low middle
      else placeAmong sorted r fuel (middle + 1) high

/-- Puts drafts in their places among ordered ones, one after the other. -/
def insertAll : List DraftRule → Array DraftRule → Except Fault (Array DraftRule)
  | [], sorted => .ok sorted
  | r :: rs, sorted => do
    let i ← placeAmong sorted r (sorted.size + 1) 0 sorted.size
    insertAll rs (sorted.extract 0 i ++ #[r] ++ sorted.extract i sorted.size)

/-- The drafts at the beginning of which each is less than the one before it, or each is not. -/
def run (falling : Bool) (last : DraftRule) :
    List DraftRule → Except Fault (List DraftRule × List DraftRule)
  | [] => .ok ([], [])
  | r :: rs => do
    if (← before r last) = falling then
      let (more, rest) ← run falling r rs
      return (r :: more, rest)
    return ([], r :: rs)

/-- Drafts in ascending order of priority. -/
def ascending : List DraftRule → Except Fault (List DraftRule)
  | [] => .ok []
  | [r] => .ok [r]
  | r :: s :: rs => do
    let falling ← before s r
    let (more, rest) ← run falling s rs
    let start := r :: s :: more
    let sorted ← insertAll rest (if falling then start.reverse else start).toArray
    return sorted.toList

/-- The drafts that take part. -/
def enabledAmong : List DraftRule → Except Fault (List DraftRule)
  | [] => .ok []
  | r :: rs => do
    let filled ← r.enabled.isFilled
    let rest ← enabledAmong rs
    return if filled then r :: rest else rest

/-- The drafts that take part, by descending priority; those of one priority keep their order. -/
def candidates (rules : List DraftRule) : Except Fault (List DraftRule) := do
  return (← ascending (← enabledAmong rules).reverse).reverse

end DraftRule

end MessageRouting
