import MessageRouting.Calendar
import MessageRouting.Fault
import MessageRouting.Value.Literal

/-!
# Faults of YAML documents

Why a text has no value as a YAML document. A document that is not well formed is told apart from
one whose scalars cannot be converted, which is reported with the wording of the conversion.
-/

namespace MessageRouting.Yaml

/-- Why a document has no value. -/
inductive Fault where
  /-- The text is no YAML document, or has a tag, key or merge that means nothing. -/
  | malformed
  /-- A list or mapping inside too many others. -/
  | depth
  /-- A date or time that does not exist. -/
  | calendar (fault : CalendarFault)
  /-- An escape beyond the last code point. -/
  | codePoint (code : Nat)
  /-- An integer of too many digits. -/
  | digits (count : Nat)
  /-- A text that is no integer in a base. -/
  | notInteger (base : Nat) (text : List Char)
  /-- A text that is no number. -/
  | notNumber (text : List Char)
  /-- An empty text where a number should be. -/
  | emptyNumber
  /-- A text that is no truth value. -/
  | notBoolean (text : List Char)
  /-- A text that is no date or time. -/
  | notTimestamp
  /-- A mapping where the text of a date or time should be. -/
  | notText
  /-- A number of more places of base sixty than a double can have. -/
  | overflow
deriving DecidableEq, Repr

namespace Fault

/-- The name of the kind of a fault. -/
def name : Fault → String
  | malformed => "YAMLError"
  | depth => "RecursionError"
  | calendar _ | digits _ | notInteger .. | notNumber _ => "ValueError"
  | codePoint n => if n < Nat.pow 2 31 then "ValueError" else "OverflowError"
  | emptyNumber => "IndexError"
  | notBoolean _ => "KeyError"
  | notTimestamp => "AttributeError"
  | notText => "TypeError"
  | overflow => "OverflowError"

/-- A text in quotes. -/
def quoted (cs : List Char) : String := String.ofList (Text.Quoted.literal cs)

/-- The wording of a fault of a date or time. -/
def calendarMessage : CalendarFault → String
  | .year n => "year " ++ toString n ++ " is out of range"
  | .month => "month must be in 1..12"
  | .day => "day is out of range for month"
  | .hour => "hour must be in 0..23"
  | .minute => "minute must be in 0..59"
  | .second => "second must be in 0..59"
  | .offset minutes =>
    "offset must be a timedelta strictly between -timedelta(hours=24) and timedelta(hours=24), not "
      ++ Literal.duration (minutes * 60) ++ "."

/-- The wording of a fault. -/
def message : Fault → String
  | malformed => "not a document"
  | depth => "maximum recursion depth exceeded"
  | calendar f => calendarMessage f
  | codePoint n =>
    if n < Nat.pow 2 31 then "chr() arg not in range(0x110000)"
    else "Python int too large to convert to C int"
  | digits n => (MessageRouting.Fault.numeralLimit n).message
  | notInteger base text =>
    "invalid literal for int() with base " ++ toString base ++ ": " ++ quoted text
  | notNumber text => "could not convert string to float: " ++ quoted text
  | emptyNumber => "string index out of range"
  | notBoolean text => quoted text
  | notTimestamp => (MessageRouting.Fault.noAttribute "NoneType" "groupdict").message
  | notText => "expected string or bytes-like object, got 'list'"
  | overflow => "int too large to convert to float"

end Fault

end MessageRouting.Yaml
