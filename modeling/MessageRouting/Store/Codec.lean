import MessageRouting.Json.Reader
import MessageRouting.Json.Writer
import MessageRouting.Rule
import MessageRouting.Text.Encoding

/-!
# The stored form of rules

Rules are stored as JSON text: a list of objects with all fields in their order, indented by two.
Numbers that JSON does not have are stored as null, dates and bytes as text, and sets and pairs as
lists. An operand that nests too deep is not stored, and neither is a text that is not all
characters. `Codec.decode` reads the text back and accepts it only if it is a list of rules
throughout.
-/

namespace MessageRouting.Store.Codec

open Schema

/-- How doubles are stored. -/
def floats : Decimal.Layout where
  leastPoint := -4
  greatestPoint _ := 16
  exponentWidth := 1
  keepsPoint := true
  nan := "null"
  infinity := "null"

/-- A double as it is stored. -/
def float (x : Binary64) : List Char := if x.isFinite then floats.render x else "null".toList

/-- Why bytes have no stored form. -/
def bytesFault (f : Text.Encoding.Fault) : Fault :=
  .unstorable (match f.cause with
    | .truncated => "incomplete utf-8 byte sequence from index " ++ toString f.position
    | _ => "invalid utf-8 sequence of " ++ toString f.count ++ " bytes from index " ++
      toString f.position)

/-- The text that bytes encode. -/
def bytesText (data : List UInt8) : Except Fault (List Char) :=
  match String.fromUTF8? ⟨data.toArray⟩, Text.Encoding.firstFault? ⟨data.toArray⟩ with
  | some s, _ => .ok s.toList
  | none, some f => .error (bytesFault f)
  | none, none => .error (.unstorable "invalid utf-8 sequence")

/-- Why a text that is not all characters has no stored form. -/
def brokenFault (codes : List Nat) : Fault :=
  let position := codes.findIdx fun code => !Scalar.isCharCode code
  .unstorable ("UnicodeEncodeError: 'utf-8' codec can't encode character '" ++
    String.ofList (Text.Quoted.unicodeEscape (codes.getD position 0)) ++ "' in position " ++
    toString position ++ ": surrogates not allowed")

/-- A scalar as it is stored. -/
def scalar : Scalar → Except Fault (List Char)
  | .null => .ok "null".toList
  | .bool b => .ok (if b then "true" else "false").toList
  | .int n => .ok (Decimal.integer n)
  | .float x => .ok (float x)
  | .text s => .ok (Text.Quoted.json s.toList)
  | .moment m => .ok (Text.Quoted.json m.stamp)
  | .bytes data => (bytesText data).map Text.Quoted.json
  | .broken codes => .error (brokenFault codes)

/-- The text of a member name. -/
def label : Scalar → Except Fault (List Char)
  | .null => .ok "None".toList
  | .text s => .ok s.toList
  | .moment m => .ok m.stamp
  | .bytes data => bytesText data
  | s => scalar s

/-- How many levels stand around the operand of a condition of a stored rule. -/
def outerLevels : Nat := 4

/-- How many levels of an operand are written. -/
def operandLevels : Nat := 255

/-- How rules are stored. -/
def style : Json.Style where
  indent := some 2
  separator := ","
  colon := ": "
  quote := Text.Quoted.json
  scalar := scalar
  label := label
  setText := none
  deepest := operandLevels + outerLevels
  tooDeep := .unstorable "ValueError: Circular reference detected (depth exceeded)"

/-- The text of rules. -/
def encode (rules : List Rule) : Except Fault (List Char) :=
  style.write (.list (rules.map Rule.toValue))

variable [Interpreter]

/-- The rules that a text holds, or none if it holds anything else. -/
def decode (cs : List Char) : List Rule :=
  match Json.Dialect.strict.read cs with
  | .error _ => []
  | .ok v =>
    match listOf Rule.check v with
    | .accepted rules => rules
    | .rejected _ => []

/-- The rules that bytes hold, or none if they are no text. -/
def decodeBytes (data : ByteArray) : List Rule :=
  match String.fromUTF8? data with
  | some s => decode s.toList
  | none => []

end MessageRouting.Store.Codec
