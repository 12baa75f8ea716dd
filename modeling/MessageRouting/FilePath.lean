/-!
# File paths

A path is a list of names. Empty names and single dots are dropped when a path is read, so that
`./a//b` and `a/b` are one path; the path without names is the current directory.
-/

namespace MessageRouting

/-- A path. -/
structure FilePath where
  /-- Whether it begins at the root. -/
  absolute : Bool
  /-- The names on the way. -/
  names : List String
deriving DecidableEq, Repr, Inhabited

namespace FilePath

/-- The parts of a text between slashes. -/
def partsOf : List Char → List (List Char)
  | [] => [[]]
  | c :: cs =>
    match partsOf cs with
    | [] => [[c]]
    | p :: ps => if c = '/' then [] :: p :: ps else (c :: p) :: ps

/-- The path that a text names. -/
def ofString (s : String) : FilePath where
  absolute := s.toList.head? = some '/'
  names := ((partsOf s.toList).map String.ofList).filter fun n => n ≠ "" && n ≠ "."

/-- The text of a path. -/
def text (p : FilePath) : String :=
  let body := "/".intercalate p.names
  if p.absolute then "/" ++ body else if body = "" then "." else body

/-- The last name; empty without one. -/
def name (p : FilePath) : String := p.names.getLast?.getD ""

/-- The end of a name from its last dot on. A dot at the beginning or the end does not count. -/
def suffixOf (cs : List Char) : List Char :=
  let after := (cs.reverse.takeWhile (· ≠ '.')).reverse
  let front := cs.length - after.length
  if 1 < front && after ≠ [] then '.' :: after else []

/-- The end of the last name from its last dot on. -/
def suffix (p : FilePath) : String := String.ofList (suffixOf p.name.toList)

/-- The path of the directory around. -/
def parent (p : FilePath) : FilePath := { p with names := p.names.dropLast }

/-- The path whose last name has a text more at its end. -/
def extended (p : FilePath) (ending : String) : FilePath :=
  { p with names := p.names.dropLast ++ [p.name ++ ending] }

end FilePath

end MessageRouting
