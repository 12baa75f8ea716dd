import MessageRouting.Json.Writer

/-!
# Data of queries

Queries work on JSON data whose numbers are doubles. `Datum.ofValue` takes a value in, which fails
for what JSON does not have, and `Datum.toValue` gives a result out, in which a whole number is an
integer, a NaN null and an infinity the largest double. All data stand in one order,
`Datum.compare`.
-/

namespace MessageRouting.Query

/-- The text of code points, with U+FFFD for those that are no characters. -/
def replaced (codes : List Nat) : String :=
  String.ofList (codes.map fun code => if Scalar.isCharCode code then Char.ofNat code else '\uFFFD')

/-- A datum. -/
inductive Datum where
  /-- No value. -/
  | null
  /-- A truth value. -/
  | bool (b : Bool)
  /-- A number. -/
  | number (x : Binary64)
  /-- A text. -/
  | text (s : String)
  /-- A list. -/
  | array (items : List Datum)
  /-- An object: its members in insertion order. -/
  | object (members : List (String × Datum))
deriving Inhabited

namespace Datum

/-- The name of the kind of a datum. -/
def kind : Datum → String
  | null => "null"
  | bool _ => "boolean"
  | number _ => "number"
  | text _ => "string"
  | array _ => "array"
  | object _ => "object"

/-- Anything but null and false holds. -/
def holds : Datum → Bool
  | null => false
  | bool b => b
  | _ => true

/-- The datum of a member. -/
def memberOf? (members : List (String × Datum)) (name : String) : Option Datum :=
  members.lookup name

/-- Sets a member: a name that is there keeps its place. -/
def setMember (members : List (String × Datum)) (name : String) (d : Datum) :
    List (String × Datum) :=
  if members.any fun m => m.1 = name then
    members.map fun m => if m.1 = name then (name, d) else m
  else members ++ [(name, d)]

/-! ## Text -/

/-- How the numbers of results and messages are written. -/
def numbers : Decimal.Layout where
  leastPoint := -3
  greatestPoint n := n + 15
  exponentWidth := 2
  keepsPoint := false
  nan := "null"
  infinity := "1.7976931348623157e+308"

/-- A character inside a text. -/
def quotedChar (c : Char) : List Char :=
  if c.toNat = 127 then Text.Quoted.unicodeEscape 127 else Text.Quoted.jsonChar c

/-- A text in quotes. -/
def quoted (s : String) : List Char := '"' :: (s.toList.flatMap quotedChar ++ ['"'])

mutual

/-- The text of a datum. -/
def render : Datum → List Char
  | null => "null".toList
  | bool b => (if b then "true" else "false").toList
  | number x => numbers.render x
  | text s => quoted s
  | array ds => '[' :: (renderItems ds ++ [']'])
  | object ms => '\x7b' :: (renderMembers ms ++ ['\x7d'])

/-- Items with commas between them. -/
def renderItems : List Datum → List Char
  | [] => []
  | [d] => render d
  | d :: ds => render d ++ ',' :: renderItems ds

/-- Members with commas between them. -/
def renderMembers : List (String × Datum) → List Char
  | [] => []
  | [(name, d)] => quoted name ++ ':' :: render d
  | (name, d) :: ms => quoted name ++ ':' :: (render d ++ ',' :: renderMembers ms)

end

/-- The longest beginning of a text that takes no more than `limit` bytes. -/
def beginning (limit : Nat) : List Char → List Char
  | [] => []
  | c :: cs => if c.utf8Size ≤ limit then c :: beginning (limit - c.utf8Size) cs else []

/-- The text of a datum as messages show it: a long one is cut after 26 bytes. -/
def excerpt (d : Datum) : String :=
  let cs := d.render
  if cs.foldl (fun n c => n + c.utf8Size) 0 ≤ 29 then String.ofList cs
  else String.ofList (beginning 26 cs) ++ "..."

/-- The kind and the text of a datum, as messages show them. -/
def described (d : Datum) : String := d.kind ++ " (" ++ d.excerpt ++ ")"

/-! ## Order -/

/-- The place of a kind in the order of data. -/
def rank : Datum → Nat
  | null => 0
  | bool false => 1
  | bool true => 2
  | number _ => 3
  | text _ => 4
  | array _ => 5
  | object _ => 6

/-- The order of numbers; a NaN comes before all, itself included. -/
def compareNumbers (x y : Binary64) : Ordering :=
  if x.isNaN then .lt
  else if y.isNaN then .gt
  else (x.compare? y).getD .lt

/-- The order of texts, by their characters. -/
def compareTexts (s t : String) : Ordering :=
  if s < t then .lt else if s = t then .eq else .gt

/-- The member names of an object, in order. -/
def sortedNames (ms : List (String × Datum)) : List String :=
  (ms.map (·.1)).mergeSort fun s t => compareTexts s t != .gt

/-- The order of lists of texts. -/
def compareNames : List String → List String → Ordering
  | [], [] => .eq
  | [], _ :: _ => .lt
  | _ :: _, [] => .gt
  | s :: ss, t :: ts => (compareTexts s t).then (compareNames ss ts)

/-- The outcomes of comparing the members of the first object with those of the second, by name. -/
abbrev Verdicts := List (String × Ordering)

/-- The first outcome that tells two objects apart, by name. -/
def firstDifference (found : Verdicts) : Ordering :=
  ((found.mergeSort fun a b => compareTexts a.1 b.1 != .gt).map (·.2)).foldl Ordering.then .eq

mutual

/-- The order of data: by kind, then by content. Objects are compared by their names first. -/
def compare : Datum → Datum → Ordering
  | number x, number y => compareNumbers x y
  | text s, text t => compareTexts s t
  | array ds, array es => compareItems ds es
  | object ms, object ns =>
    (compareNames (sortedNames ms) (sortedNames ns)).then (firstDifference (compareMembers ms ns))
  | d, e => Ord.compare d.rank e.rank

/-- The order of lists, item by item. -/
def compareItems : List Datum → List Datum → Ordering
  | [], [] => .eq
  | [], _ :: _ => .lt
  | _ :: _, [] => .gt
  | d :: ds, e :: es => (compare d e).then (compareItems ds es)

/-- Each member compared with the member of that name. -/
def compareMembers : List (String × Datum) → List (String × Datum) → Verdicts
  | [], _ => []
  | (name, d) :: ms, ns =>
    (name, match memberOf? ns name with
      | some e => compare d e
      | none => .gt) :: compareMembers ms ns

end

/-! ## Values -/

/-- A value without parts; a date is no datum. -/
def ofScalar : Scalar → Except Fault Datum
  | .null => .ok .null
  | .bool b => .ok (.bool b)
  | .int n =>
    match Literal.integer n with
    | .ok _ => .ok (.number (.ofInt n))
    | .error f => .error f
  | .float x => .ok (.number x)
  | .text s => .ok (.text s)
  | .moment (.day _) => .error (.noJson "date")
  | .moment (.time ..) => .error (.noJson "datetime")
  | .bytes _ => .error (.noJson "bytes")
  | .broken codes => .ok (.text (replaced codes))

mutual

/-- A value as a datum. -/
def ofValue : Value → Except Fault Datum
  | .scalar s => ofScalar s
  | .list vs => (ofItems vs).map .array
  | .object ms => (ofMembers ms).map fun found =>
    .object (found.foldl (fun ns m => setMember ns m.1 m.2) [])
  | .set _ => .error (.noJson "set")
  | .pair v w => do
    let first ← ofValue v
    let second ← ofValue w
    return .array [first, second]

/-- Items as data. -/
def ofItems : List Value → Except Fault (List Datum)
  | [] => .ok []
  | v :: vs => do
    let d ← ofValue v
    return d :: (← ofItems vs)

/-- Members as data. -/
def ofMembers : List (Scalar × Value) → Except Fault (List (String × Datum))
  | [] => .ok []
  | (name, v) :: ms => do
    let label ← Json.label name
    let d ← ofValue v
    return (String.ofList label, d) :: (← ofMembers ms)

end

/-- The largest finite double, with a sign. -/
def largest (negative : Bool) : Binary64 := .ofMagnitude negative (2047 * Nat.pow 2 52 - 1)

/-- A number as a value: a whole one is an integer, and what has no JSON text is replaced. -/
def numberValue (x : Binary64) : Value :=
  if x.isNaN then .null
  else if x.isInfinite then .float (largest x.isNegative)
  else
    match x.toInt? with
    | some n => .int n
    | none => .float x

mutual

/-- A datum as a value. -/
def toValue : Datum → Value
  | null => .null
  | bool b => .bool b
  | number x => numberValue x
  | text s => .text s
  | array ds => .list (itemsToValues ds)
  | object ms => .object (membersToValues ms)

/-- Items as values. -/
def itemsToValues : List Datum → List Value
  | [] => []
  | d :: ds => toValue d :: itemsToValues ds

/-- Members as values. -/
def membersToValues : List (String × Datum) → List (Scalar × Value)
  | [] => []
  | (name, d) :: ms => (.text name, toValue d) :: membersToValues ms

end

end Datum

end MessageRouting.Query
