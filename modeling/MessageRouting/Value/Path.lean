import MessageRouting.Value

/-!
# Dotted paths

A path such as `order.customer.tier` names a member of a member of a value. Every segment, empty
ones included, is one member name, and only objects have members: `Value.lookup?` gives nothing as
soon as a segment is missing or something else than an object is reached.
-/

namespace MessageRouting

namespace Path

/-- The parts of a text between its dots. -/
def segmentsOf : List Char → List (List Char)
  | [] => [[]]
  | c :: cs =>
    match segmentsOf cs with
    | [] => [[c]]
    | s :: rest => if c = '.' then [] :: s :: rest else (c :: s) :: rest

/-- The member names of a path. -/
def segments (path : String) : List String := (segmentsOf path.toList).map String.ofList

end Path

namespace Value

/-- Walks down member by member. -/
def descend (v : Value) (names : List String) : Option Value :=
  names.foldlM (fun v name => v.get? name) v

@[simp] theorem descend_nil (v : Value) : v.descend [] = some v := rfl

@[simp] theorem descend_cons (v : Value) (name : String) (names : List String) :
    v.descend (name :: names) = (v.get? name).bind fun w => w.descend names := rfl

theorem descend_append (v : Value) (names rest : List String) :
    v.descend (names ++ rest) = (v.descend names).bind fun w => w.descend rest :=
  List.foldlM_append

/-- The value at a dotted path; the empty path names nothing. -/
def lookup? (v : Value) (path : String) : Option Value :=
  if path = "" then none else v.descend (Path.segments path)

end Value

end MessageRouting
