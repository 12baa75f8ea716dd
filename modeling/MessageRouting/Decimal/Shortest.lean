import MessageRouting.Binary64
import MessageRouting.Decimal.Digits

/-!
# Shortest decimal text of a double

`Decimal.shortest` gives the fewest digits that read back as the same double, and of those the
nearest ones. A `Layout` says how an output writes such digits: which numbers are written
positionally, how wide an exponent is at least and whether a whole number keeps `.0`.
-/

namespace MessageRouting.Decimal

/-- The positive number `0.d₁d₂… · 10^point`, without zeros at the end of the digits. -/
structure Scientific where
  /-- The digits as a number. -/
  digits : Nat
  /-- Where the point stands, counted from the first digit. -/
  point : Int
deriving DecidableEq, Repr

/-- The greatest `d` with `10^d ≤ num / den`, from an estimate that is off by at most one. -/
def floorLog10 (num den : Nat) : Int :=
  let estimate := (((num.log2 : Int) - den.log2) * 30103).fdiv 100000
  let reached (d : Int) : Bool :=
    if 0 ≤ d then den * Nat.pow 10 d.toNat ≤ num else den ≤ num * Nat.pow 10 (-d).toNat
  if reached (estimate + 1) then estimate + 1
  else if reached estimate then estimate
  else estimate - 1

/-- The numbers that round to one double: `low ≤ x ≤ high` in units of `1 / den`, the ends
included or not. -/
structure RoundingInterval where
  /-- The double itself. -/
  center : Nat
  /-- The midpoint to the double below. -/
  low : Nat
  /-- The midpoint to the double above. -/
  high : Nat
  /-- The common denominator. -/
  den : Nat
  /-- Whether the midpoints round to this double. -/
  closed : Bool

namespace RoundingInterval

/-- The interval of a positive finite double. Below a power of two the gap is half as wide. -/
def ofBinary64 (x : Binary64) : RoundingInterval :=
  let m := x.significand
  let lowGap := if m = Nat.pow 2 52 && 1 < x.exponentField then 1 else 2
  let e := x.exponent - 2
  let scale := Nat.pow 2 e.toNat
  { center := 4 * m * scale, low := (4 * m - lowGap) * scale, high := (4 * m + 2) * scale
    den := Nat.pow 2 (-e).toNat, closed := m % 2 = 0 }

/-- Whether `n / d` lies in the interval. -/
def contains (i : RoundingInterval) (n d : Nat) : Bool :=
  let v := n * i.den
  if i.closed then i.low * d ≤ v && v ≤ i.high * d else i.low * d < v && v < i.high * d

/-- The neighbours of the double on the grid of `unit = unitNum / unitDen` that lie in the
interval; of two, the nearer one, an exact tie going to the even one. -/
def onGrid? (i : RoundingInterval) (unitNum unitDen : Nat) : Option Nat :=
  let below := i.center * unitDen / (i.den * unitNum)
  let above := below + 1
  let inside (c : Nat) : Bool := i.contains (c * unitNum) unitDen
  match inside below, inside above with
  | true, true =>
    let twice := 2 * (i.center * unitDen % (i.den * unitNum))
    if twice < i.den * unitNum then some below
    else if i.den * unitNum < twice then some above
    else some (below + below % 2)
  | true, false => some below
  | false, true => some above
  | false, false => none

end RoundingInterval

/-- Drops the zeros at the end of the digits of a number. -/
def dropZeros (fuel n : Nat) : Nat :=
  match fuel with
  | 0 => n
  | fuel + 1 => if n % 10 = 0 then dropZeros fuel (n / 10) else n

/-- The first grid with a hit, from `count` digits on. -/
def shortestFrom (i : RoundingInterval) (top : Int) (count : Nat) : Nat → Scientific
  | 0 => { digits := i.center / i.den, point := (digits (i.center / i.den)).length }
  | fuel + 1 =>
    let e := top - count + 1
    let unitNum := Nat.pow 10 e.toNat
    let unitDen := Nat.pow 10 (-e).toNat
    match i.onGrid? unitNum unitDen with
    | some c =>
      { digits := dropZeros 20 c, point := (digits c).length + e }
    | none => shortestFrom i top (count + 1) fuel

/-- The shortest digits of a positive finite double; seventeen always suffice. -/
def shortest (x : Binary64) : Scientific :=
  let i := RoundingInterval.ofBinary64 x
  shortestFrom i (floorLog10 i.center i.den) 1 17

/-- How an output writes doubles. -/
structure Layout where
  /-- The leftmost point position written without an exponent. -/
  leastPoint : Int
  /-- The rightmost point position written without an exponent, given the number of digits. -/
  greatestPoint : Nat → Int
  /-- The least width of an exponent. -/
  exponentWidth : Nat
  /-- Whether a whole number is written with `.0`. -/
  keepsPoint : Bool
  /-- Text of a NaN. -/
  nan : String
  /-- Text of infinity. -/
  infinity : String

namespace Layout

/-- Digits written with a point and without an exponent. -/
def positional (f : Layout) (cs : List Char) (point : Int) : List Char :=
  if point ≤ 0 then '0' :: '.' :: (List.replicate (-point).toNat '0' ++ cs)
  else
    let p := point.toNat
    if cs.length ≤ p then
      cs ++ List.replicate (p - cs.length) '0' ++ if f.keepsPoint then ['.', '0'] else []
    else cs.take p ++ '.' :: cs.drop p

/-- Digits written with one digit before the point, and an exponent. -/
def exponential (f : Layout) (cs : List Char) (point : Int) : List Char :=
  let e := point - 1
  let mantissa := match cs with
    | [] => []
    | [c] => [c]
    | c :: rest => c :: '.' :: rest
  mantissa ++ 'e' :: (if e < 0 then '-' else '+') :: padded f.exponentWidth e.natAbs

/-- The text of a positive finite double. -/
def magnitude (f : Layout) (x : Binary64) : List Char :=
  let s := shortest x
  let cs := digits s.digits
  if f.leastPoint ≤ s.point && s.point ≤ f.greatestPoint cs.length then f.positional cs s.point
  else f.exponential cs s.point

/-- The text of a double. -/
def render (f : Layout) (x : Binary64) : List Char :=
  if x.isNaN then f.nan.toList
  else
    let sign := if x.isNegative then ['-'] else []
    if x.isInfinite then sign ++ f.infinity.toList
    else if x.significand = 0 then sign ++ if f.keepsPoint then ['0', '.', '0'] else ['0']
    else sign ++ f.magnitude x

end Layout

end MessageRouting.Decimal
