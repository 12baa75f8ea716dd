import MessageRouting.Json.Writer

/-!
# Values that contain themselves

A `Looped` value is a value in which a list or object can also stand for one that encloses it. It
has no JSON text; its text is its literal, where the repetition is written `[...]` or `{...}`.
-/

namespace MessageRouting

/-- A value whose parts can be one of the lists and objects around them. -/
inductive Looped where
  /-- A value without parts. -/
  | scalar (s : Scalar)
  /-- A list. -/
  | list (items : List Looped)
  /-- An object. -/
  | object (members : List (Scalar × Looped))
  /-- The `level`-th list or object around this place, counted from 0. -/
  | enclosing (level : Nat)
deriving Inhabited

namespace Looped

/-- The literal of a list or object inside itself. -/
def repetition (isList : Bool) : List Char :=
  if isList then "[...]".toList else '\x7b' :: ("...".toList ++ ['\x7d'])

section

variable [Interpreter]

mutual

/-- The literal, by a recursion that can go `room` levels deep; `around` says of each enclosing
container, the innermost first, whether it is a list. -/
def literal (room : Nat) (around : List Bool) : Looped → Except Fault (List Char)
  | .scalar s => s.literal
  | .list xs =>
    match room with
    | 0 => .error Interpreter.quoting.fault
    | deeper + 1 => do
      let items ← literalItems deeper (true :: around) xs
      return '[' :: (Literal.commaSeparated items ++ [']'])
  | .object ms =>
    match room with
    | 0 => .error Interpreter.quoting.fault
    | deeper + 1 => do
      let members ← literalMembers deeper (false :: around) ms
      return '\x7b' :: (Literal.commaSeparated members ++ ['\x7d'])
  | .enclosing level => .ok (repetition (around.getD level true))

/-- The literals of items. -/
def literalItems (room : Nat) (around : List Bool) :
    List Looped → Except Fault (List (List Char))
  | [] => .ok []
  | v :: vs => do
    let head ← literal room around v
    return head :: (← literalItems room around vs)

/-- The literals of members. -/
def literalMembers (room : Nat) (around : List Bool) :
    List (Scalar × Looped) → Except Fault (List (List Char))
  | [] => .ok []
  | (name, v) :: ms => do
    let head ← name.literal
    let body ← literal room around v
    return (head ++ ':' :: ' ' :: body) :: (← literalMembers room around ms)

end

end

mutual

/-- The value, if it does not contain itself. -/
def toValue? : Looped → Option Value
  | .scalar s => some (.scalar s)
  | .list xs => (toItems? xs).map .list
  | .object ms => (toMembers? ms).map .object
  | .enclosing _ => none

/-- The items, if none contains an enclosing container. -/
def toItems? : List Looped → Option (List Value)
  | [] => some []
  | v :: vs => do
    let head ← toValue? v
    return head :: (← toItems? vs)

/-- The members, if none contains an enclosing container. -/
def toMembers? : List (Scalar × Looped) → Option (List (Scalar × Value))
  | [] => some []
  | (name, v) :: ms => do
    let body ← toValue? v
    return (name, body) :: (← toMembers? ms)

end

/-- The text of a value that may contain itself. -/
def asText [Interpreter] (v : Looped) : Except Fault (List Char) :=
  match v.toValue? with
  | some plain => plain.asText
  | none => v.literal Interpreter.quoting.depth []

end Looped

end MessageRouting
