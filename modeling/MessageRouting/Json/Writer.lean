import MessageRouting.Value.Literal

/-!
# JSON text

`Json.Style.write` is the one writer of JSON: a `Style` says how lines are broken, how texts and
numbers look, how member names and dates become texts and how deep it goes. A pair is written as a
list, and so is a set unless the style has a text for it. `Value.asText` is the text of a value that
`contains` and `regex` conditions look into: a text as it is, all else as compact JSON.
-/

namespace MessageRouting.Json

/-- How JSON is written. -/
structure Style where
  /-- Blanks per level if items stand on lines of their own. -/
  indent : Option Nat
  /-- What stands between two items on one line. -/
  separator : String
  /-- What stands between a name and its value. -/
  colon : String
  /-- A text in quotes. -/
  quote : List Char → List Char
  /-- A scalar. -/
  scalar : Scalar → Except Fault (List Char)
  /-- The text of a member name. -/
  label : Scalar → Except Fault (List Char)
  /-- A set, if it is not written as a list. -/
  setText : Option (List Scalar → Except Fault (List Char))
  /-- How many levels are written. -/
  deepest : Nat
  /-- The fault of what stands deeper. -/
  tooDeep : Fault

namespace Style

/-- What stands before the items of a container at a depth, between them and after them. -/
def lineBreak (f : Style) (depth : Nat) : List Char :=
  match f.indent with
  | some n => '\n' :: List.replicate (n * depth) ' '
  | none => []

/-- Joins written items at a depth. -/
def joined (f : Style) (depth : Nat) : List (List Char) → List Char
  | [] => []
  | [s] => s
  | s :: rest =>
    s ++ (match f.indent with
      | some _ => ',' :: f.lineBreak depth
      | none => f.separator.toList) ++ joined f depth rest

/-- Written items in brackets; `depth` is that of the container. -/
def enclosed (f : Style) (opening closing : Char) (depth : Nat) (items : List (List Char)) :
    List Char :=
  if items.isEmpty then [opening, closing]
  else opening :: (f.lineBreak (depth + 1) ++ f.joined (depth + 1) items ++ f.lineBreak depth ++
    [closing])

/-- Goes from a depth into the parts of a list or object there. -/
def enter (f : Style) (depth : Nat) : Except Fault Unit :=
  if depth < f.deepest then .ok () else .error f.tooDeep

/-- A set at a depth. -/
def writeSet (f : Style) (depth : Nat) (elements : List Scalar) : Except Fault (List Char) := do
  f.enter depth
  match f.setText with
  | some text => text elements
  | none => return f.enclosed '[' ']' depth (← elements.mapM f.scalar)

mutual

/-- A value at a depth. -/
def writeAt (f : Style) (depth : Nat) : Value → Except Fault (List Char)
  | .scalar s => f.scalar s
  | .list xs => do
    f.enter depth
    return f.enclosed '[' ']' depth (← writeItems f (depth + 1) xs)
  | .object ms => do
    f.enter depth
    return f.enclosed '\x7b' '\x7d' depth (← writeMembers f (depth + 1) ms)
  | .set es => writeSet f depth es
  | .pair v w => do
    f.enter depth
    let first ← writeAt f (depth + 1) v
    let second ← writeAt f (depth + 1) w
    return f.enclosed '[' ']' depth [first, second]

/-- Items at a depth. -/
def writeItems (f : Style) (depth : Nat) : List Value → Except Fault (List (List Char))
  | [] => .ok []
  | v :: vs => do
    let head ← writeAt f depth v
    return head :: (← writeItems f depth vs)

/-- Members at a depth. -/
def writeMembers (f : Style) (depth : Nat) :
    List (Scalar × Value) → Except Fault (List (List Char))
  | [] => .ok []
  | (name, v) :: ms => do
    let label ← f.label name
    let body ← writeAt f depth v
    return (f.quote label ++ f.colon.toList ++ body) :: (← writeMembers f depth ms)

end

/-- The JSON text of a value. -/
def write (f : Style) (v : Value) : Except Fault (List Char) := f.writeAt 0 v

end Style

/-- Doubles are written as literals, with names for the three that JSON does not have. -/
def floats : Decimal.Layout := { Literal.floats with nan := "NaN", infinity := "Infinity" }

/-- A scalar as JSON; dates and bytes are written as the texts of their forms. -/
def scalar (quote : List Char → List Char) : Scalar → Except Fault (List Char)
  | .null => .ok "null".toList
  | .bool b => .ok (if b then "true" else "false").toList
  | .int n => Literal.integer n
  | .float x => .ok (floats.render x)
  | .text s => .ok (quote s.toList)
  | .moment m => .ok (quote (m.iso ' '))
  | .bytes data => .ok (quote (Text.Quoted.literalBytes data))
  | .broken codes => .ok (quote (Scalar.shownCodes codes))

/-- A member name: the JSON text of a scalar. Dates and bytes are no names. -/
def label : Scalar → Except Fault (List Char)
  | .text s => .ok s.toList
  | .broken codes => .ok (Scalar.shownCodes codes)
  | .moment m => .error (.memberName (Scalar.moment m).kind)
  | .bytes data => .error (.memberName (Scalar.bytes data).kind)
  | s => scalar id s

/-- The name of the kind of a scalar that has no JSON form of its own. -/
def foreignKind? : Scalar → Option String
  | .moment (.day _) => some "date"
  | .moment (.time ..) => some "datetime"
  | .bytes _ => some "bytes"
  | _ => none

/-- A scalar as JSON, if it has a form of its own. -/
def properScalar (quote : List Char → List Char) (s : Scalar) : Except Fault (List Char) :=
  match foreignKind? s with
  | some kind => .error (.noJson kind)
  | none => scalar quote s

/-- The text of a set. -/
def setText (quote : List Char → List Char) (elements : List Scalar) : Except Fault (List Char) :=
  do return quote (Value.setLiteral (← elements.mapM Scalar.literal))

variable [Interpreter]

/-- JSON without blanks, in which only what has to be is escaped. -/
def compact : Style where
  indent := none
  separator := ","
  colon := ":"
  quote := Text.Quoted.json
  scalar := scalar Text.Quoted.json
  label := label
  setText := some (setText Text.Quoted.json)
  deepest := Interpreter.writing.depth
  tooDeep := Interpreter.writing.fault

/-- ASCII JSON over several lines, indented by two, of what has JSON forms. -/
def indented : Style where
  indent := some 2
  separator := ","
  colon := ": "
  quote := Text.Quoted.jsonAscii
  scalar := properScalar Text.Quoted.jsonAscii
  label := label
  setText := some fun _ => .error (.noJson "set")
  deepest := Interpreter.printing.depth
  tooDeep := Interpreter.printing.fault

end MessageRouting.Json

namespace MessageRouting.Value

variable [Interpreter]

/-- The text of a value: a text is itself, all else compact JSON. -/
def asText : Value → Except Fault (List Char)
  | .text s => .ok s.toList
  | .scalar (.broken codes) => .ok (Scalar.shownCodes codes)
  | v => Json.compact.write v

end MessageRouting.Value
