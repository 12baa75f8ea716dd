import MessageRouting.Yaml.Node

/-!
# Values of YAML documents

`Yaml.read` gives the value of the only document of a text. A mapping becomes an object, after the
members that `<<` takes over, or a set of its keys; a list of mappings with one key each can become
a list of pairs. A mapping of the kind of a scalar stands for what it gives under `=`. Nodes are
converted level by level: of several faults the one of the outermost node is reported, and of those
the first.
-/

namespace MessageRouting.Yaml

/-- A fault and how deep in the document it arose. -/
structure DeepFault where
  /-- The number of lists and mappings around it. -/
  depth : Nat
  /-- The fault. -/
  fault : Fault

namespace Node

/-- The conversion of a part, which can fail at some depth. -/
abbrev Converted (α : Type) := Except DeepFault α

/-- Both results, or the less deep of two faults. -/
def both {α β : Type} (a : Converted α) (b : Converted β) : Converted (α × β) :=
  match a, b with
  | .ok x, .ok y => .ok (x, y)
  | .error e, .ok _ => .error e
  | .ok _, .error e => .error e
  | .error e, .error f => .error (if f.depth < e.depth then f else e)

/-- All results, or the least deep fault. -/
def allOf {α : Type} : List (Converted α) → Converted (List α)
  | [] => .ok []
  | a :: rest => (both a (allOf rest)).map fun (x, xs) => x :: xs

/-- The kind of a node. -/
def tag : Node → Tag
  | scalar t _ | broken t _ | sequence t _ | mapping t _ => t

/-- Whether a key takes over members. -/
def isMerge (n : Node) : Bool := n.tag = .merge

/-- The list of keys and values of several mappings, the last one first. -/
def mergedPairs : List (Option (List (Node × Node))) → Option (List (Node × Node))
  | [] => some []
  | none :: _ => none
  | some ps :: rest => (mergedPairs rest).map (· ++ ps)

mutual

/-- The keys and values of a mapping after taking over what its `<<` keys name. -/
def flattened : List (Node × Node) → Option (List (Node × Node) × List (Node × Node))
  | [] => some ([], [])
  | (key, value) :: rest =>
    match flattened rest with
    | none => none
    | some (taken, own) =>
      if key.isMerge then
        match takenFrom value with
        | some ps => some (ps ++ taken, own)
        | none => none
      else some (taken, (key, value) :: own)

/-- The keys and values that a node offers to a `<<` key. -/
def takenFrom : Node → Option (List (Node × Node))
  | .mapping _ pairs => (flattened pairs).map fun (taken, own) => taken ++ own
  | .sequence _ items => mergedPairs (itemPairs items)
  | .scalar .. | .broken .. => none

/-- The keys and values of the items of a list, which have to be mappings. -/
def itemPairs : List Node → List (Option (List (Node × Node)))
  | [] => []
  | n :: ns =>
    (match n with
      | .mapping _ pairs => (flattened pairs).map fun (taken, own) => taken ++ own
      | _ => none) :: itemPairs ns

end

mutual

/-- The code points that a node gives for a scalar: those of a scalar, and what a mapping gives
under `=`. -/
def givenCodes? : Node → Option (List Nat)
  | .scalar _ cs => some (cs.map Char.toNat)
  | .broken _ codes => some codes
  | .mapping _ pairs => givenUnder? pairs
  | .sequence .. => none

/-- The code points that the value of the first key `=` gives. -/
def givenUnder? : List (Node × Node) → Option (List Nat)
  | [] => none
  | (key, value) :: rest => if key.tag = .default then givenCodes? value else givenUnder? rest

end

/-- The scalar of a kind that a node stands for. -/
def toScalar (t : Tag) : Node → Except Fault MessageRouting.Scalar
  | .scalar _ cs => t.convert cs
  | .broken _ codes => t.convertBroken codes
  | .mapping _ pairs =>
    match givenUnder? pairs with
    | some codes => t.convertGiven codes
    | none => .error .malformed
  | .sequence .. => .error .malformed

/-- Keys have to be scalars; the sign `=` is a text there. -/
def keyOf (depth : Nat) (n : Node) : Converted MessageRouting.Scalar :=
  (toScalar (if n.tag = .default then .text else n.tag) n).mapError (⟨depth, ·⟩)

/-- Members from converted keys and values. -/
def membersOf (pairs : List (MessageRouting.Scalar × Value)) :
    List (MessageRouting.Scalar × Value) :=
  pairs.foldl (fun ms (k, v) => Value.setMember ms k v) []

/-- What a node of the kind of a scalar stands for, at a depth. A list or mapping that should be
there is only missed when it is filled. -/
def scalarAt (depth : Nat) (n : Node) : Converted Value :=
  if n.tag.isContainer then .error ⟨depth + 1, .malformed⟩
  else ((toScalar n.tag n).mapError (⟨depth, ·⟩)).map .scalar

/-- The value of a node, at a depth. The fuel bounds the depth. -/
def toValue : Nat → Nat → Node → Converted Value
  | _, depth, .scalar t cs => scalarAt depth (.scalar t cs)
  | _, depth, .broken t codes => scalarAt depth (.broken t codes)
  | 0, depth, _ => .error ⟨depth, .malformed⟩
  | fuel + 1, depth, .sequence t items =>
    match t with
    | .sequence => (allOf (items.map fun n => toValue fuel (depth + 1) n)).map .list
    | .pairs =>
      (allOf (items.map fun n =>
        match n with
        | .mapping _ [(k, v)] =>
          (both (toValue fuel (depth + 1) k) (toValue fuel (depth + 1) v)).map fun (x, y) =>
            .pair x y
        | _ => .error ⟨depth + 1, .malformed⟩)).map .list
    | t => scalarAt depth (.sequence t items)
  | fuel + 1, depth, .mapping t pairs =>
    let members : Converted (List (MessageRouting.Scalar × Value)) :=
      match flattened pairs with
      | none => .error ⟨depth + 1, .malformed⟩
      | some (taken, own) =>
        (allOf ((taken ++ own).map fun (k, n) =>
          both (keyOf (depth + 1) k) (toValue fuel (depth + 1) n))).map membersOf
    match t with
    | .mapping => members.map .object
    | .set => members.map fun ms => .set (ms.map (·.1))
    | t => scalarAt depth (.mapping t pairs)

mutual

/-- How many lists and mappings are inside each other. -/
def height : Node → Nat
  | .scalar .. | .broken .. => 0
  | .sequence _ items => heightItems items + 1
  | .mapping _ pairs => heightPairs pairs + 1

/-- The greatest height of items. -/
def heightItems : List Node → Nat
  | [] => 0
  | n :: ns => max (height n) (heightItems ns)

/-- The greatest height of keys and values. -/
def heightPairs : List (Node × Node) → Nat
  | [] => 0
  | (k, v) :: ps => max (max (height k) (height v)) (heightPairs ps)

end

end Node

/-- The value of the only document of a text; a text without a document is null. -/
def read [Interpreter] (cs : List Char) : Except Fault Value := do
  match ← Node.ofTokens? (tokens cs).1 (tokens cs).2 with
  | none => return .null
  | some n => (n.toValue (n.height + 1) 0).mapError (·.fault)

end MessageRouting.Yaml
