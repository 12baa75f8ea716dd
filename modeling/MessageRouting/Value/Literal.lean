import MessageRouting.Decimal.Shortest
import MessageRouting.Interpreter
import MessageRouting.Text.Quoted
import MessageRouting.Value

/-!
# Literals

`Value.literal` writes a value the way mismatch reports and messages quote it: `None`, `True`,
`'it'`, `[1, 2.0]`, `{'a': None}`. Only an integer of too many digits has no literal, and what nests
deeper than the interpreter goes.
-/

namespace MessageRouting

namespace Literal

/-- Doubles are written positionally from `0.0001` to below `10^16` and keep their `.0`. -/
def floats : Decimal.Layout where
  leastPoint := -3
  greatestPoint _ := 16
  exponentWidth := 2
  keepsPoint := true
  nan := "nan"
  infinity := "inf"

/-- An integer, if it has few enough digits. -/
def integer (n : Int) : Except Fault (List Char) :=
  if (Decimal.digits n.natAbs).length ≤ Fault.maxDigits then .ok (Decimal.integer n)
  else .error .digitLimit

/-- Joins texts with a comma and a blank. -/
def commaSeparated : List (List Char) → List Char
  | [] => []
  | [s] => s
  | s :: rest => s ++ ',' :: ' ' :: commaSeparated rest

/-- The whole numbers of a time, leaving out seconds and microseconds that are zero. -/
def clockParts (t : TimeOfDay) : List Nat :=
  if t.microsecond ≠ 0 then [t.hour, t.minute, t.second, t.microsecond]
  else if t.second ≠ 0 then [t.hour, t.minute, t.second]
  else [t.hour, t.minute]

/-- A length of time below a day, in seconds; negative ones are counted from a day before. -/
def duration (seconds : Int) : String :=
  let days := seconds.fdiv 86400
  let rest := seconds.fmod 86400
  let parts := (if days ≠ 0 then ["days=" ++ toString days] else []) ++
    if rest ≠ 0 then ["seconds=" ++ toString rest] else []
  "datetime.timedelta(" ++ (if parts.isEmpty then "0" else ", ".intercalate parts) ++ ")"

/-- The zone with the given offset in minutes. -/
def zone (offset : Int) : String :=
  if offset = 0 then "datetime.timezone.utc"
  else "datetime.timezone(" ++ duration (offset * 60) ++ ")"

/-- A date or time. -/
def moment : Moment → List Char
  | .day d =>
    "datetime.date(".toList ++
      commaSeparated ([d.year, d.month, d.day].map Decimal.digits) ++ [')']
  | .time d t offset =>
    "datetime.datetime(".toList ++
      commaSeparated (([d.year, d.month, d.day] ++ clockParts t).map Decimal.digits) ++
      (match offset with
        | some o => (", tzinfo=" ++ zone o).toList
        | none => []) ++ [')']

/-- A text by its code points. -/
def broken (codes : List Nat) : List Char :=
  let quote := Text.Quoted.quoteFor (Scalar.shownCodes codes)
  let written (code : Nat) : List Char :=
    if Scalar.isCharCode code then Text.Quoted.literalChar quote (Char.ofNat code)
    else Text.Quoted.unicodeEscape code
  quote :: (codes.flatMap written ++ [quote])

end Literal

namespace Scalar

/-- The literal of a scalar. -/
def literal : Scalar → Except Fault (List Char)
  | null => .ok "None".toList
  | bool b => .ok (if b then "True" else "False").toList
  | int n => Literal.integer n
  | float x => .ok (Literal.floats.render x)
  | text s => .ok (Text.Quoted.literal s.toList)
  | moment m => .ok (Literal.moment m)
  | bytes data => .ok (Text.Quoted.literalBytes data)
  | broken codes => .ok (Literal.broken codes)

/-- The plain text of a scalar: a text is itself and a date is its ISO text, a time separated by
a blank. -/
def plain : Scalar → Except Fault (List Char)
  | text s => .ok s.toList
  | moment m => .ok (m.iso ' ')
  | broken codes => .ok (shownCodes codes)
  | s => s.literal

end Scalar

namespace Value

/-- The literal of a set of written elements. -/
def setLiteral (elements : List (List Char)) : List Char :=
  if elements.isEmpty then "set()".toList
  else '\x7b' :: (Literal.commaSeparated elements ++ ['\x7d'])

variable [Interpreter]

mutual

/-- The literal of a value, by a recursion that can go `room` levels deep. -/
def literalIn (room : Nat) : Value → Except Fault (List Char)
  | .scalar s => s.literal
  | .list xs =>
    match room with
    | 0 => .error Interpreter.quoting.fault
    | deeper + 1 => do
      return '[' :: (Literal.commaSeparated (← literalItems deeper xs) ++ [']'])
  | .object ms =>
    match room with
    | 0 => .error Interpreter.quoting.fault
    | deeper + 1 => do
      return '\x7b' :: (Literal.commaSeparated (← literalMembers deeper ms) ++ ['\x7d'])
  | .set es =>
    match room with
    | 0 => .error Interpreter.quoting.fault
    | _ + 1 => do return setLiteral (← es.mapM Scalar.literal)
  | .pair v w =>
    match room with
    | 0 => .error Interpreter.quoting.fault
    | deeper + 1 => do
      let first ← literalIn deeper v
      let second ← literalIn deeper w
      return '(' :: (Literal.commaSeparated [first, second] ++ [')'])

/-- The literals of items. -/
def literalItems (room : Nat) : List Value → Except Fault (List (List Char))
  | [] => .ok []
  | v :: vs => do
    let head ← literalIn room v
    return head :: (← literalItems room vs)

/-- The literals of members, with their names. -/
def literalMembers (room : Nat) : List (Scalar × Value) → Except Fault (List (List Char))
  | [] => .ok []
  | (name, v) :: ms => do
    let label ← name.literal
    let body ← literalIn room v
    return (label ++ ':' :: ' ' :: body) :: (← literalMembers room ms)

end

/-- The literal of a value. -/
def literal (v : Value) : Except Fault (List Char) := literalIn Interpreter.quoting.depth v

/-- The plain text of a value: that of a scalar, else the literal. -/
def plain : Value → Except Fault (List Char)
  | .scalar s => s.plain
  | v => v.literal

/-- The plain text of a value as a string. -/
def plainText (v : Value) : Except Fault String := do return String.ofList (← v.plain)

end Value

end MessageRouting
