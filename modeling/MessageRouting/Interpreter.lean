import MessageRouting.Fault

/-!
# The interpreter

Calls can stand inside each other only up to a limit, so every recursion into nested data refuses
data of too many levels. How many a recursion goes through depends on the interpreter, on how many
calls a level takes and on the calls that stand around it, and so does the wording of the refusal.
An `Interpreter` says both for each recursion of the program; nothing is assumed about it, and what
is stated over one holds for all of them. It also knows the names of characters, and which texts the
log takes.
-/

namespace MessageRouting

/-- A recursion into nested data. -/
structure Recursion where
  /-- How many levels it goes through. -/
  depth : Nat
  /-- How it refuses to go deeper. -/
  refusal : String

/-- What runs the program. -/
class Interpreter where
  /-- A payload is copied. -/
  copying : Recursion
  /-- Values are compared strictly. -/
  comparing : Recursion
  /-- Values are put in order. -/
  ordering : Recursion
  /-- A value is written as compact JSON. -/
  writing : Recursion
  /-- A value is written as JSON over several lines. -/
  printing : Recursion
  /-- A value is written as a literal. -/
  quoting : Recursion
  /-- A request is written into the channel of a process. -/
  sending : Recursion
  /-- The groups of a pattern are read. -/
  grouping : Recursion
  /-- How many levels of JSON are read. -/
  readDepth : Nat
  /-- How many levels of YAML are read. -/
  composeDepth : Nat
  /-- The character of a name. -/
  characterNamed : String → Option Char
  /-- How the log refuses a text that is not all characters, if it does. -/
  logRefusal : Option Fault

namespace Recursion

/-- The fault of data that nests too deep. -/
def fault (r : Recursion) : Fault := .tooDeep r.refusal

/-- Goes through data of a number of levels. -/
def enter (r : Recursion) (levels : Nat) : Except Fault Unit :=
  if levels ≤ r.depth then .ok () else .error r.fault

theorem enter_of_le {r : Recursion} {levels : Nat} (h : levels ≤ r.depth) :
    r.enter levels = .ok () :=
  if_pos h

theorem enter_of_lt {r : Recursion} {levels : Nat} (h : r.depth < levels) :
    r.enter levels = .error r.fault :=
  if_neg (by omega)

end Recursion

namespace Interpreter

/-- What all refusals begin with. -/
def exceeded : String := "maximum recursion depth exceeded"

/-- An interpreter with a limit of a thousand calls, of which some are taken, without names of
characters, and with a log that takes any text. -/
@[reducible] def usual : Interpreter where
  copying := ⟨490, exceeded ++ " while calling a Python object"⟩
  comparing := ⟨325, exceeded⟩
  ordering := ⟨980, exceeded ++ " in comparison"⟩
  writing := ⟨980, exceeded ++ " while encoding a JSON object"⟩
  printing := ⟨980, exceeded⟩
  quoting := ⟨980, exceeded ++ " while getting the repr of an object"⟩
  sending := ⟨490, exceeded ++ " while pickling an object"⟩
  grouping := ⟨490, exceeded⟩
  readDepth := 980
  composeDepth := 480
  characterNamed _ := none
  logRefusal := none

namespace Usual

scoped instance : Interpreter := usual

end Usual

end Interpreter

end MessageRouting
