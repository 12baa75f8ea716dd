import MessageRouting.Decimal.Digits
import MessageRouting.Text.Quoted

/-!
# Malformed UTF-8

`Encoding.firstFault?` finds the first bytes of a sequence that are no UTF-8, and says why: a byte
that begins no character, a byte that does not continue one, or an end in the middle of one.
-/

namespace MessageRouting.Text.Encoding

/-- Why bytes encode no character. -/
inductive Cause where
  /-- No character begins with this byte. -/
  | start
  /-- The character does not go on like this. -/
  | continuation
  /-- The bytes end before the character does. -/
  | truncated
deriving DecidableEq, Repr

/-- Bytes that encode no character. -/
structure Fault where
  /-- The position of the first of them. -/
  position : Nat
  /-- How many they are. -/
  count : Nat
  /-- The first of them. -/
  byte : Nat
  /-- Why. -/
  cause : Cause
deriving DecidableEq, Repr

/-- The ranges of the bytes that can follow a first byte, or none if no character begins with it.
Overlong forms and surrogates are left out. -/
def following? (b : Nat) : Option (List (Nat × Nat)) :=
  let any := (0x80, 0xBF)
  if b < 0x80 then some []
  else if b < 0xC2 then none
  else if b < 0xE0 then some [any]
  else if b = 0xE0 then some [(0xA0, 0xBF), any]
  else if b = 0xED then some [(0x80, 0x9F), any]
  else if b < 0xF0 then some [any, any]
  else if b = 0xF0 then some [(0x90, 0xBF), any, any]
  else if b < 0xF4 then some [any, any, any]
  else if b = 0xF4 then some [(0x80, 0x8F), any, any]
  else none

/-- The bytes after a character whose first `taken` bytes have been read, or the fault of it. -/
def rest? (taken : Nat) : List (Nat × Nat) → List Nat → Except (Nat × Cause) (List Nat)
  | [], bs => .ok bs
  | _ :: _, [] => .error (taken, .truncated)
  | (low, high) :: ranges, b :: bs =>
    if low ≤ b && b ≤ high then rest? (taken + 1) ranges bs else .error (taken, .continuation)

/-- The first fault of a sequence of bytes, whose first byte stands at a position. -/
def faultFrom? : Nat → Nat → List Nat → Option Fault
  | 0, _, _ => none
  | _, _, [] => none
  | fuel + 1, position, b :: bs =>
    match following? b with
    | none => some ⟨position, 1, b, .start⟩
    | some ranges =>
      match rest? 1 ranges bs with
      | .error (count, cause) => some ⟨position, count, b, cause⟩
      | .ok rest => faultFrom? fuel (position + 1 + ranges.length) rest

/-- The first fault of a sequence of bytes. -/
def firstFault? (data : ByteArray) : Option Fault :=
  let bs := data.toList.map UInt8.toNat
  faultFrom? (bs.length + 1) 0 bs

namespace Fault

/-- The wording of a cause. -/
def reason : Cause → String
  | .start => "invalid start byte"
  | .continuation => "invalid continuation byte"
  | .truncated => "unexpected end of data"

/-- The wording of a fault. -/
def message (f : Fault) : String :=
  let place :=
    if f.count = 1 then
      "byte 0x" ++ String.ofList (Quoted.hex 2 f.byte) ++ " in position " ++ toString f.position
    else
      "bytes in position " ++ toString f.position ++ "-" ++ toString (f.position + f.count - 1)
  "'utf-8' codec can't decode " ++ place ++ ": " ++ reason f.cause

end Fault

end MessageRouting.Text.Encoding
