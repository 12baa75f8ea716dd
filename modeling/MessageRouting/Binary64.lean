/-!
# Double-precision numbers

A double is held as its 64 bits and read as the exact dyadic number `± significand · 2^exponent`.
All comparisons and roundings below are done on integers, so nothing depends on machine arithmetic:
`Binary64.ofRatio` is the double nearest to a quotient (a tie goes to the even neighbour) and
`Binary64.toDyadic?` is the number that a finite double denotes.
-/

namespace MessageRouting

/-- A double-precision number, as its 64 bits. -/
structure Binary64 where
  /-- Sign, exponent and fraction, from the highest bit down. -/
  bits : UInt64
deriving DecidableEq, Inhabited, Repr

/-- The number `mantissa · 2^exponent`. -/
structure DyadicNumber where
  /-- The integer factor. -/
  mantissa : Int
  /-- The power of two. -/
  exponent : Int
deriving DecidableEq, Repr

namespace DyadicNumber

/-- The mantissa after moving to a smaller exponent `e`. -/
def scaledTo (d : DyadicNumber) (e : Int) : Int :=
  d.mantissa * (Nat.pow 2 (d.exponent - e).toNat : Nat)

/-- Comparison of the denoted numbers, at the smaller of the two exponents. -/
def compare (a b : DyadicNumber) : Ordering :=
  let e := min a.exponent b.exponent
  Ord.compare (a.scaledTo e) (b.scaledTo e)

/-- An integer as a dyadic number. -/
def ofInt (n : Int) : DyadicNumber := ⟨n, 0⟩

/-- The denoted number if it is an integer. -/
def toInt? (d : DyadicNumber) : Option Int :=
  if 0 ≤ d.exponent then some (d.mantissa * (Nat.pow 2 d.exponent.toNat : Nat))
  else
    let unit : Int := (Nat.pow 2 (-d.exponent).toNat : Nat)
    if d.mantissa % unit = 0 then some (d.mantissa / unit) else none

end DyadicNumber

namespace Binary64

/-- Whether the sign bit is set. -/
def isNegative (x : Binary64) : Bool := x.bits.toNat ≥ Nat.pow 2 63

/-- The exponent field, 0 to 2047. -/
def exponentField (x : Binary64) : Nat := x.bits.toNat / Nat.pow 2 52 % Nat.pow 2 11

/-- The fraction field, below `2^52`. -/
def fraction (x : Binary64) : Nat := x.bits.toNat % Nat.pow 2 52

/-- Not a number: the highest exponent with a fraction. -/
def isNaN (x : Binary64) : Bool := x.exponentField = 2047 && x.fraction ≠ 0

/-- Plus or minus infinity. -/
def isInfinite (x : Binary64) : Bool := x.exponentField = 2047 && x.fraction = 0

/-- Neither infinite nor a NaN. -/
def isFinite (x : Binary64) : Bool := x.exponentField ≠ 2047

/-- The integer significand of a finite double, with the hidden bit of normal numbers. -/
def significand (x : Binary64) : Nat :=
  if x.exponentField = 0 then x.fraction else x.fraction + Nat.pow 2 52

/-- The power of two that the significand is multiplied by. -/
def exponent (x : Binary64) : Int := (max x.exponentField 1 : Nat) - 1075

/-- The number that a finite double denotes. -/
def toDyadic? (x : Binary64) : Option DyadicNumber :=
  if x.isFinite then
    some ⟨if x.isNegative then -(x.significand : Int) else x.significand, x.exponent⟩
  else none

/-- The double whose magnitude has the bit pattern `magnitude`, with the given sign. -/
def ofMagnitude (negative : Bool) (magnitude : Nat) : Binary64 :=
  ⟨UInt64.ofNat (magnitude + if negative then Nat.pow 2 63 else 0)⟩

/-- Plus or minus infinity. -/
def infinity (negative : Bool) : Binary64 := ofMagnitude negative (2047 * Nat.pow 2 52)

/-- The canonical NaN. -/
def nan : Binary64 := ofMagnitude false (2047 * Nat.pow 2 52 + Nat.pow 2 51)

/-- Plus or minus zero. -/
def zero (negative : Bool) : Binary64 := ofMagnitude negative 0

/-- Round half to even: the integer nearest to `num / den`. -/
def roundDiv (num den : Nat) : Nat :=
  let q := num / den
  let twice := 2 * (num % den)
  if twice < den then q
  else if den < twice then q + 1
  else q + q % 2

/-- The number `num / den / 2^e` as a quotient of natural numbers. -/
def scaledRatio (num den : Nat) (e : Int) : Nat × Nat :=
  if 0 ≤ e then (num, den * Nat.pow 2 e.toNat) else (num * Nat.pow 2 (-e).toNat, den)

/-- The power of two for which `num / den` has a significand of 53 bits, not below the least one
of a double. -/
def ratioExponent (num den : Nat) : Int :=
  let guess : Int := (num.log2 : Int) - den.log2 - 52
  let (n, d) := scaledRatio num den guess
  max (if n / d < Nat.pow 2 52 then guess - 1 else guess) (-1074)

/-- The double nearest to `num / den`, a tie going to the even significand; beyond the largest
double it is infinite. A significand of `2^53` carries into the exponent field by itself. -/
def ofRatio (negative : Bool) (num den : Nat) : Binary64 :=
  if num = 0 then zero negative
  else
    let e := ratioExponent num den
    let (n, d) := scaledRatio num den e
    let magnitude := (e + 1074).toNat * Nat.pow 2 52 + roundDiv n d
    if magnitude < 2047 * Nat.pow 2 52 then ofMagnitude negative magnitude else infinity negative

/-- The double nearest to an integer. -/
def ofInt (n : Int) : Binary64 := ofRatio (n < 0) n.natAbs 1

/-- The double nearest to `digits · 10^exponent`, where `width` is the number of digits; the two
bounds only spare the computation of powers that no double reaches. -/
def ofDecimal (negative : Bool) (digits width : Nat) (exponent : Int) : Binary64 :=
  if digits = 0 then zero negative
  else if exponent + width > 400 then infinity negative
  else if exponent + width < -400 then zero negative
  else if 0 ≤ exponent then ofRatio negative (digits * Nat.pow 10 exponent.toNat) 1
  else ofRatio negative digits (Nat.pow 10 (-exponent).toNat)

/-- The denoted number if it is an integer. -/
def toInt? (x : Binary64) : Option Int := x.toDyadic?.bind DyadicNumber.toInt?

/-- The machine number with these bits. -/
def toFloat (x : Binary64) : Float := Float.ofBits x.bits

/-- The bits of a machine number, with one NaN. -/
def ofFloat (x : Float) : Binary64 := if x.isNaN then nan else ⟨x.toBits⟩

/-- Numeric comparison of two doubles; nothing compares with a NaN. -/
def compare? (x y : Binary64) : Option Ordering :=
  if x.isNaN || y.isNaN then none
  else
    match x.toDyadic?, y.toDyadic? with
    | some a, some b => some (a.compare b)
    | some _, none => some (if y.isNegative then .gt else .lt)
    | none, some _ => some (if x.isNegative then .lt else .gt)
    | none, none => some (Ord.compare y.isNegative x.isNegative)

/-- Numeric comparison of an integer with a double. -/
def compareInt? (n : Int) (y : Binary64) : Option Ordering :=
  if y.isNaN then none
  else
    match y.toDyadic? with
    | some b => some ((DyadicNumber.ofInt n).compare b)
    | none => some (if y.isNegative then .gt else .lt)

end Binary64

end MessageRouting
