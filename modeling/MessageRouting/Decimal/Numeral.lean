import MessageRouting.Binary64
import MessageRouting.Decimal.Digits

/-!
# Decimal numerals

A numeral is what a reader of numbers has found: a sign, digits before and after the point and a
power of ten. `Numeral.toBinary64` is the double nearest to it.
-/

namespace MessageRouting.Decimal

/-- The number `± whole.fraction · 10^exponent`. -/
structure Numeral where
  /-- Whether a minus sign stands in front. -/
  negative : Bool
  /-- The digits before the point. -/
  whole : List Char
  /-- The digits after the point. -/
  fraction : List Char
  /-- The power of ten. -/
  exponent : Int

namespace Numeral

/-- All digits but the zeros in front. -/
def significant (n : Numeral) : List Char := (n.whole ++ n.fraction).dropWhile (· = '0')

/-- The double nearest to the number. -/
def toBinary64 (n : Numeral) : Binary64 :=
  let cs := n.significant
  Binary64.ofDecimal n.negative (value cs) cs.length (n.exponent - n.fraction.length)

end Numeral

/-- An exponent: the letter `e`, a sign if there is one, and digits. Without digits nothing is
read. -/
def exponentPart : List Char → Option (Int × List Char)
  | 'e' :: cs | 'E' :: cs =>
    let (negative, cs) := match cs with
      | '-' :: rest => (true, rest)
      | '+' :: rest => (false, rest)
      | cs => (false, cs)
    match span cs with
    | ([], _) => none
    | (ds, rest) => some (signedValue negative ds, rest)
  | _ => none

end MessageRouting.Decimal
