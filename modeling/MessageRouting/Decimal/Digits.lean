/-!
# Decimal digits

`Decimal.digits` writes a natural number in base ten, most significant digit first and without
leading zeros, and `Decimal.value` reads any digits back.
-/

namespace MessageRouting.Decimal

/-- The character of a digit below ten. -/
def digitChar (d : Nat) : Char := Char.ofNat (48 + d)

/-- Whether a character is one of the ten ASCII digits. -/
def isDigit (c : Char) : Bool := '0' ≤ c && c ≤ '9'

/-- The number that an ASCII digit stands for. -/
def digitValue (c : Char) : Nat := c.toNat - 48

/-- The digits of `n` in front of `rest`. No number has more digits than `fuel = n` allows. -/
def digitsOnto : Nat → Nat → List Char → List Char
  | 0, n, rest => digitChar (n % 10) :: rest
  | fuel + 1, n, rest =>
    if n < 10 then digitChar n :: rest
    else digitsOnto fuel (n / 10) (digitChar (n % 10) :: rest)

/-- A natural number in base ten. -/
def digits (n : Nat) : List Char := digitsOnto n n []

/-- The number that digits denote. -/
def value (cs : List Char) : Nat := cs.foldl (fun n c => 10 * n + digitValue c) 0

/-- An integer in base ten, with a sign if it is negative. -/
def integer (n : Int) : List Char :=
  if n < 0 then '-' :: digits n.natAbs else digits n.natAbs

/-- Digits read as an integer, with a sign. -/
def signedValue (negative : Bool) (cs : List Char) : Int :=
  if negative then -(value cs : Int) else value cs

/-- Digits padded with zeros on the left to a least width. -/
def padded (width n : Nat) : List Char :=
  let cs := digits n
  List.replicate (width - cs.length) '0' ++ cs

/-- The leading digits of a text, and what follows them. -/
def span (cs : List Char) : List Char × List Char := (cs.takeWhile isDigit, cs.dropWhile isDigit)

end MessageRouting.Decimal
