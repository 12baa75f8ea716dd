import MessageRouting.Interpreter
import MessageRouting.Value

/-!
# Equality of values

`Value.equals` is the equality that conditions and expectations use: numbers compare by the number
they denote whether integer or double, a boolean only equals a boolean, lists compare item by item
and objects as finite maps, whatever the order of their members. A NaN equals nothing. The parts of
a pair compare less strictly, by `Value.alike`: there a boolean equals its number.

Lists and objects are compared part by part up to the first difference. A part that stands deeper
than the interpreter goes makes the comparison fail; `Value.same` is what it answers otherwise.
-/

namespace MessageRouting

namespace Scalar

/-- Equality of scalars. -/
def same : Scalar → Scalar → Bool
  | null, null => true
  | bool a, bool b => a = b
  | int m, int n => m = n
  | int n, float x | float x, int n => Binary64.compareInt? n x = some .eq
  | float x, float y => x.compare? y = some .eq
  | text s, text t => s = t
  | moment m, moment n => m.same n
  | bytes a, bytes b => a = b
  | broken a, broken b => a = b
  | _, _ => false

/-- Whether a scalar is a NaN. -/
def isNaN : Scalar → Bool
  | float x => x.isNaN
  | _ => false

/-- Equality of scalars, a boolean counting as its number. -/
def alike (s t : Scalar) : Bool := s.sameName t && !s.isNaN

end Scalar

namespace Value

/-- Whether each name of the first object is one of the second. -/
def namesWithin (ms ns : List (Scalar × Value)) : Bool :=
  ms.all fun m => ns.any fun n => n.1.sameName m.1

/-- Whether two sets have the same elements. -/
def sameElements (es fs : List Scalar) : Bool :=
  es.all (fun e => fs.any fun f => f.sameName e) && fs.all fun f => es.any fun e => e.sameName f

mutual

/-- Equality of values, a boolean counting as its number. -/
def alike : Value → Value → Bool
  | .scalar s, .scalar t => s.alike t
  | .list xs, .list ys => alikeItems xs ys
  | .object ms, .object ns => ms.length = ns.length && namesWithin ms ns && alikeMembers ms ns
  | .set es, .set fs => sameElements es fs
  | .pair v w, .pair v' w' => alike v v' && alike w w'
  | _, _ => false

/-- Equality item by item. -/
def alikeItems : List Value → List Value → Bool
  | [], [] => true
  | x :: xs, y :: ys => alike x y && alikeItems xs ys
  | _, _ => false

/-- Whether each member equals the member of that name in the second object. -/
def alikeMembers : List (Scalar × Value) → List (Scalar × Value) → Bool
  | [], _ => true
  | (name, v) :: ms, ns =>
    (match memberOf? ns name with
      | some w => alike v w
      | none => false) && alikeMembers ms ns

end

mutual

/-- Equality of values. -/
def same : Value → Value → Bool
  | .scalar s, .scalar t => s.same t
  | .list xs, .list ys => sameItems xs ys
  | .object ms, .object ns => ms.length = ns.length && namesWithin ms ns && sameMembers ms ns
  | .set es, .set fs => sameElements es fs
  | .pair v w, .pair v' w' => alike v v' && alike w w'
  | _, _ => false

/-- Equality item by item. -/
def sameItems : List Value → List Value → Bool
  | [], [] => true
  | x :: xs, y :: ys => same x y && sameItems xs ys
  | _, _ => false

/-- Whether each member equals the member of that name in the second object. -/
def sameMembers : List (Scalar × Value) → List (Scalar × Value) → Bool
  | [], _ => true
  | (name, v) :: ms, ns =>
    (match memberOf? ns name with
      | some w => same v w
      | none => false) && sameMembers ms ns

end

/-! ## Within a limit -/

variable [Interpreter]

mutual

/-- Whether two values are alike, by a comparison that can go `room` levels deep. -/
def alikeIn (room : Nat) : Value → Value → Except Fault Bool
  | .list xs, .list ys =>
    if xs.length = ys.length then alikeItemsIn room xs ys else .ok false
  | .object ms, .object ns =>
    if ms.length = ns.length then alikeMembersIn room ms ns else .ok false
  | .pair v w, .pair v' w' =>
    match room with
    | 0 => .error Interpreter.ordering.fault
    | deeper + 1 => do
      if ← alikeIn deeper v v' then alikeIn deeper w w' else return false
  | v, w => .ok (alike v w)

/-- Whether items are alike, up to the first that differ. -/
def alikeItemsIn (room : Nat) : List Value → List Value → Except Fault Bool
  | x :: xs, y :: ys =>
    match room with
    | 0 => .error Interpreter.ordering.fault
    | deeper + 1 => do
      if ← alikeIn deeper x y then alikeItemsIn (deeper + 1) xs ys else return false
  | _, _ => .ok true

/-- Whether members are like those of the same names, up to the first that differ. -/
def alikeMembersIn (room : Nat) :
    List (Scalar × Value) → List (Scalar × Value) → Except Fault Bool
  | (name, v) :: ms, ns =>
    match room, memberOf? ns name with
    | _, none => .ok false
    | 0, some _ => .error Interpreter.ordering.fault
    | deeper + 1, some w => do
      if ← alikeIn deeper v w then alikeMembersIn (deeper + 1) ms ns else return false
  | [], _ => .ok true

end

/-- Whether two values are alike. -/
def ties (v w : Value) : Except Fault Bool := alikeIn Interpreter.ordering.depth v w

mutual

/-- Whether two values are equal, by a comparison that can go `room` levels deep. -/
def equalsIn (room : Nat) : Value → Value → Except Fault Bool
  | .list xs, .list ys =>
    if xs.length = ys.length then equalItemsIn room xs ys else .ok false
  | .object ms, .object ns =>
    if ms.length = ns.length && namesWithin ms ns then equalMembersIn room ms ns else .ok false
  | .pair v w, .pair v' w' => ties (.pair v w) (.pair v' w')
  | v, w => .ok (same v w)

/-- Whether items are equal, up to the first that differ. -/
def equalItemsIn (room : Nat) : List Value → List Value → Except Fault Bool
  | x :: xs, y :: ys =>
    match room with
    | 0 => .error Interpreter.comparing.fault
    | deeper + 1 => do
      if ← equalsIn deeper x y then equalItemsIn (deeper + 1) xs ys else return false
  | _, _ => .ok true

/-- Whether members equal those of the same names, up to the first that differ. -/
def equalMembersIn (room : Nat) :
    List (Scalar × Value) → List (Scalar × Value) → Except Fault Bool
  | (name, v) :: ms, ns =>
    match room, memberOf? ns name with
    | _, none => .ok false
    | 0, some _ => .error Interpreter.comparing.fault
    | deeper + 1, some w => do
      if ← equalsIn deeper v w then equalMembersIn (deeper + 1) ms ns else return false
  | [], _ => .ok true

end

/-- Whether two values are equal. -/
def equals (v w : Value) : Except Fault Bool := equalsIn Interpreter.comparing.depth v w

end Value

end MessageRouting
