import MessageRouting.Decimal.Numeral
import MessageRouting.Interpreter
import MessageRouting.Value

/-!
# Reading JSON

`Json.Dialect.read` reads a whole text as one value. A failure has a cause and the rest of the text
where it arose, from which its line and column are counted. Besides the standard's values `NaN`,
`Infinity` and `-Infinity` are read. A name that is given twice keeps its first place and its last
value. Half of a surrogate pair alone makes a text that is not all characters.
-/

namespace MessageRouting.Json

/-- Why a text is not JSON. -/
inductive Cause where
  /-- No value begins here. -/
  | value
  /-- A member name should begin here. -/
  | name
  /-- A colon should stand here. -/
  | colon
  /-- A comma should stand here. -/
  | comma
  /-- A text that does not end. -/
  | openText
  /-- A control character inside a text. -/
  | control
  /-- An unknown escape. -/
  | escape
  /-- Not four hexadecimal digits. -/
  | hexEscape
  /-- Half of a surrogate pair. -/
  | surrogate
  /-- Something after the value. -/
  | extra
  /-- A byte order mark in front. -/
  | mark
  /-- A list or object inside too many others. -/
  | depth (isList : Bool)
  /-- An integer of too many digits. -/
  | digits (count : Nat)
deriving DecidableEq, Repr

/-- A cause, and the text from the place where it arose. -/
structure Failure where
  /-- Why. -/
  cause : Cause
  /-- The text from there on. -/
  rest : List Char

/-- What differs between the readers of JSON. -/
structure Dialect where
  /-- How many lists and objects can enclose a value. -/
  maxDepth : Nat
  /-- How many levels an empty list or object takes. -/
  bareLevels : Nat
  /-- Whether half of a surrogate pair is refused. -/
  wholePairs : Bool
  /-- Whether the sign of an integer counts towards its digits. -/
  countsSign : Bool

/-- Rule files and messages. -/
def Dialect.open [Interpreter] : Dialect where
  maxDepth := Interpreter.readDepth
  bareLevels := 1
  wholePairs := false
  countsSign := false

/-- The file of stored rules. -/
def Dialect.strict : Dialect where
  maxDepth := 200
  bareLevels := 0
  wholePairs := true
  countsSign := true

namespace Reader

/-- A part read, and the text after it. -/
abbrev Result (α : Type) := Except Failure (α × List Char)

/-- Fails at a place. -/
def fail {α : Type} (cause : Cause) (rest : List Char) : Result α := .error ⟨cause, rest⟩

/-- Whether a character may stand between the parts of JSON. -/
def isGap (c : Char) : Bool := c = ' ' || c = '\t' || c = '\n' || c = '\r'

/-- Drops gaps. -/
def skip (cs : List Char) : List Char := cs.dropWhile isGap

/-- The value of a hexadecimal digit. -/
def hexValue? (c : Char) : Option Nat :=
  if Decimal.isDigit c then some (c.toNat - 48)
  else if 'a' ≤ c && c ≤ 'f' then some (c.toNat - 87)
  else if 'A' ≤ c && c ≤ 'F' then some (c.toNat - 55)
  else none

/-- The number that four hexadecimal digits denote. -/
def hex4? (a b c d : Char) : Option Nat := do
  return (((← hexValue? a) * 16 + (← hexValue? b)) * 16 + (← hexValue? c)) * 16 + (← hexValue? d)

/-- The second half of a surrogate pair, written as an escape. -/
def lowSurrogate? : List Char → Option (Nat × List Char)
  | '\\' :: 'u' :: a :: b :: c :: d :: rest =>
    match hex4? a b c d with
    | some n => if 0xDC00 ≤ n && n < 0xE000 then some (n, rest) else none
    | none => none
  | _ => none

/-- The characters that escapes of one letter stand for. -/
def escaped? : Char → Option Char
  | '"' => some '"'
  | '\\' => some '\\'
  | '/' => some '/'
  | 'b' => some '\x08'
  | 'f' => some '\x0c'
  | 'n' => some '\n'
  | 'r' => some '\r'
  | 't' => some '\t'
  | _ => none

/-- The code point of an escaped code unit `n`, and what stands after it. -/
def codeUnit (f : Dialect) (n : Nat) (place rest : List Char) : Result Nat :=
  if 0xD800 ≤ n && n < 0xE000 then
    match if n < 0xDC00 then lowSurrogate? rest else none with
    | some (m, rest) => .ok (0x10000 + (n - 0xD800) * 1024 + (m - 0xDC00), rest)
    | none => if f.wholePairs then fail .surrogate place else .ok (n, rest)
  else .ok (n, rest)

/-- One code point of a text after a backslash; `place` is where the backslash stands. -/
def escape (f : Dialect) (start place : List Char) : List Char → Result Nat
  | [] => fail .openText start
  | 'u' :: rest =>
    match rest with
    | a :: b :: c :: d :: e :: rest =>
      match hex4? a b c d with
      | some n => codeUnit f n place (e :: rest)
      | none => fail .hexEscape place.tail
    | _ => fail .hexEscape place.tail
  | c :: rest =>
    match escaped? c with
    | some d => .ok (d.toNat, rest)
    | none => fail .escape place

/-- The code points of the rest of a text after its opening quote; `start` is where the quote
stands. -/
def text (f : Dialect) (start : List Char) : Nat → List Char → Result (List Nat)
  | 0, _ => fail .openText start
  | fuel + 1, cs =>
    match cs with
    | [] => fail .openText start
    | '"' :: rest => .ok ([], rest)
    | '\\' :: rest =>
      match escape f start cs rest with
      | .error e => .error e
      | .ok (c, rest) => (text f start fuel rest).map fun (s, rest) => (c :: s, rest)
    | c :: rest =>
      if c.toNat < 32 then fail .control cs
      else (text f start fuel rest).map fun (s, rest) => (c.toNat :: s, rest)

/-- The fraction of a number: a point and at least one digit. -/
def fractionPart : List Char → List Char × List Char
  | '.' :: rest =>
    match Decimal.span rest with
    | ([], _) => ([], '.' :: rest)
    | (ds, rest) => (ds, rest)
  | cs => ([], cs)

/-- The whole part of a number: a zero, or digits that do not begin with one. -/
def wholePart : List Char → List Char × List Char
  | '0' :: rest => (['0'], rest)
  | cs => Decimal.span cs

/-- How much of the digits that an integer can have is used up by it. -/
def integerLength (f : Dialect) (negative : Bool) (whole : List Char) : Nat :=
  if negative && f.countsSign then whole.length + 1 else whole.length

/-- A number. Without a fraction and an exponent it is an integer. -/
def number (f : Dialect) (cs : List Char) : Result Scalar :=
  let (negative, digits) := match cs with
    | '-' :: rest => (true, rest)
    | cs => (false, cs)
  match wholePart digits with
  | ([], _) => fail .value cs
  | (whole, rest) =>
    let (fraction, rest) := fractionPart rest
    match Decimal.exponentPart rest with
    | some (e, rest) => .ok (.float (Decimal.Numeral.mk negative whole fraction e).toBinary64, rest)
    | none =>
      if fraction = [] then
        if Fault.maxDigits < integerLength f negative whole then fail (.digits whole.length) cs
        else .ok (.int (Decimal.signedValue negative whole), rest)
      else .ok (.float (Decimal.Numeral.mk negative whole fraction 0).toBinary64, rest)

/-- The text after a word, if the word stands in front. -/
def after? : List Char → List Char → Option (List Char)
  | [], cs => some cs
  | w :: ws, c :: cs => if w = c then after? ws cs else none
  | _ :: _, [] => none

/-- The words that stand for values. -/
def words : List (String × Scalar) :=
  [("null", .null), ("true", .bool true), ("false", .bool false), ("NaN", .float .nan),
    ("Infinity", .float (.infinity false)), ("-Infinity", .float (.infinity true))]

/-- A word or a number. -/
def plain (f : Dialect) (cs : List Char) : Result Scalar :=
  match words.findSome? fun (w, s) => (after? w.toList cs).map (s, ·) with
  | some found => .ok found
  | none => number f cs

/-- Skips gaps, and then wants a character. -/
def expect (c : Char) (cause : Cause) (cs : List Char) : Except Failure (List Char) :=
  match skip cs with
  | d :: rest => if d = c then .ok rest else .error ⟨cause, d :: rest⟩
  | [] => .error ⟨cause, []⟩

/-- How many levels a container takes, by the text after its opening sign. -/
def levelsTaken (f : Dialect) (closing : Char) (rest : List Char) : Nat :=
  if (skip rest).head? = some closing then f.bareLevels else 1

mutual

/-- A value that begins here. `depth` is the number of levels that can still be entered. -/
def value (f : Dialect) : Nat → Nat → List Char → Result Value
  | 0, _, cs => fail .value cs
  | fuel + 1, depth, cs =>
    match cs with
    | '"' :: rest =>
      (text f cs cs.length rest).map fun (s, rest) => (.scalar (Scalar.ofCodes s), rest)
    | '[' :: rest =>
      if depth < levelsTaken f ']' rest then fail (.depth true) cs
      else
        match skip rest with
        | ']' :: rest => .ok (.list [], rest)
        | rest => (items f fuel (depth - 1) rest).map fun (vs, rest) => (.list vs, rest)
    | '\x7b' :: rest =>
      if depth < levelsTaken f '\x7d' rest then fail (.depth false) cs
      else
        match skip rest with
        | '\x7d' :: rest => .ok (.object [], rest)
        | rest => (members f fuel (depth - 1) [] rest).map fun (ms, rest) => (.object ms, rest)
    | cs => (plain f cs).map fun (s, rest) => (.scalar s, rest)

/-- At least one item, and the bracket after the last. -/
def items (f : Dialect) : Nat → Nat → List Char → Result (List Value)
  | 0, _, cs => fail .value cs
  | fuel + 1, depth, cs =>
    match value f fuel depth cs with
    | .error e => .error e
    | .ok (v, rest) =>
      match skip rest with
      | ']' :: rest => .ok ([v], rest)
      | ',' :: rest => (items f fuel depth (skip rest)).map fun (vs, rest) => (v :: vs, rest)
      | rest => fail .comma rest

/-- At least one more member, and the brace after the last. -/
def members (f : Dialect) :
    Nat → Nat → List (Scalar × Value) → List Char → Result (List (Scalar × Value))
  | 0, _, _, cs => fail .name cs
  | fuel + 1, depth, found, cs =>
    match cs with
    | '"' :: afterQuote =>
      match text f cs cs.length afterQuote with
      | .error e => .error e
      | .ok (name, rest) =>
        match expect ':' .colon rest with
        | .error e => .error e
        | .ok rest =>
          match value f fuel depth (skip rest) with
          | .error e => .error e
          | .ok (v, rest) =>
            let found := Value.setMember found (Scalar.ofCodes name) v
            match skip rest with
            | '\x7d' :: rest => .ok (found, rest)
            | ',' :: rest => members f fuel depth found (skip rest)
            | rest => fail .comma rest
    | cs => fail .name cs

end

end Reader

/-- Reads a whole text as one value. -/
def Dialect.read (f : Dialect) (cs : List Char) : Except Failure Value :=
  match cs with
  | '\uFEFF' :: _ => .error ⟨.mark, cs⟩
  | cs =>
    match Reader.value f (cs.length + 1) f.maxDepth (Reader.skip cs) with
    | .error e => .error e
    | .ok (v, rest) =>
      match Reader.skip rest with
      | [] => .ok v
      | rest => .error ⟨.extra, rest⟩

namespace Cause

/-- The wording of a cause that is reported with its place. -/
def message : Cause → String
  | value => "Expecting value"
  | name => "Expecting property name enclosed in double quotes"
  | colon => "Expecting ':' delimiter"
  | comma => "Expecting ',' delimiter"
  | openText => "Unterminated string starting at"
  | control => "Invalid control character at"
  | escape => "Invalid \\escape"
  | hexEscape => "Invalid \\uXXXX escape"
  | surrogate => "Unpaired surrogate"
  | extra => "Extra data"
  | mark => "Unexpected UTF-8 BOM (decode using utf-8-sig)"
  | depth isList =>
    "maximum recursion depth exceeded while decoding a JSON " ++
      (if isList then "array" else "object") ++ " from a unicode string"
  | digits n => (Fault.numeralLimit n).message

end Cause

/-- A failure with its place in the text: the wording, the line, the column and the position. -/
def Failure.located (e : Failure) (whole : List Char) : String :=
  let position := whole.length - e.rest.length
  let before := whole.take position
  let line := before.count '\n' + 1
  let column := (before.reverse.takeWhile (· ≠ '\n')).length + 1
  e.cause.message ++ ": line " ++ toString line ++ " column " ++ toString column ++ " (char " ++
    toString position ++ ")"

end MessageRouting.Json
