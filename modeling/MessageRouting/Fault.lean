/-!
# Faults

What can go wrong while data of an unexpected shape is read, compared or rendered. A fault is a
cause; `Fault.message` is its wording and `Fault.name` the name of its kind.
-/

namespace MessageRouting

/-- The cause of a failure. -/
inductive Fault where
  /-- An integer of more than 4300 digits was to be written. -/
  | digitLimit
  /-- A text of more than 4300 digits was to be read as an integer. -/
  | numeralLimit (digits : Nat)
  /-- An object with a member name of this kind was to be rendered. -/
  | memberName (kind : String)
  /-- A value of this kind was to be written as JSON. -/
  | noJson (kind : String)
  /-- A value of this kind was to be walked through. -/
  | notIterable (kind : String)
  /-- Something of this kind lacks an attribute. -/
  | noAttribute (kind name : String)
  /-- Values of these kinds have no order, as the comparison written so needs one. -/
  | notOrdered (comparison left right : String)
  /-- A value of this kind has no length. -/
  | noLength (kind : String)
  /-- A value of this kind cannot be looked up. -/
  | unhashable (kind : String)
  /-- A repetition count beyond the greatest one. -/
  | repetitionCount
  /-- Two flags of a pattern that exclude each other. -/
  | flagConflict
  /-- A history of fewer results than one. -/
  | historySize (size : String)
  /-- A history of more results than can be counted. -/
  | sizeLimit
  /-- An expression evaluator raised with this text. -/
  | raised (text : String)
  /-- A number is too large for what it is used for. -/
  | overflow (text : String)
  /-- Something of another kind than the one that is needed. -/
  | wrongKind (text : String)
  /-- A recursion into data that nests too deep was refused with this text. -/
  | tooDeep (refusal : String)
  /-- A part of a record of this kind does not fit. -/
  | unfit (record : String)
  /-- A value has no stored form, for this reason. -/
  | unstorable (reason : String)
deriving DecidableEq, Repr, Inhabited

namespace Fault

/-- The most digits that integers are written and read with. -/
def maxDigits : Nat := 4300

/-- The wording of a fault. -/
def message : Fault → String
  | digitLimit =>
    "Exceeds the limit (4300 digits) for integer string conversion; " ++
      "use sys.set_int_max_str_digits() to increase the limit"
  | numeralLimit n =>
    "Exceeds the limit (4300 digits) for integer string conversion: value has " ++ toString n ++
      " digits; use sys.set_int_max_str_digits() to increase the limit"
  | memberName kind => "keys must be str, int, float, bool or None, not " ++ kind
  | noJson kind => "Object of type " ++ kind ++ " is not JSON serializable"
  | notIterable kind => "'" ++ kind ++ "' object is not iterable"
  | noAttribute kind name => "'" ++ kind ++ "' object has no attribute '" ++ name ++ "'"
  | notOrdered comparison left right =>
    "'" ++ comparison ++ "' not supported between instances of '" ++ left ++ "' and '" ++ right ++
      "'"
  | noLength kind => "object of type '" ++ kind ++ "' has no len()"
  | unhashable kind => "unhashable type: '" ++ kind ++ "'"
  | repetitionCount => "the repetition number is too large"
  | flagConflict => "ASCII and UNICODE flags are incompatible"
  | historySize size => "History size must be at least 1, got " ++ size
  | sizeLimit => "Python int too large to convert to C ssize_t"
  | raised text => text
  | overflow text => text
  | wrongKind text => text
  | tooDeep refusal => refusal
  | unfit record => "1 validation error for " ++ record
  | unstorable reason => "Error serializing to JSON: " ++ reason

/-- The name of the kind of a fault. -/
def name : Fault → String
  | digitLimit | numeralLimit _ | flagConflict | historySize _ => "ValueError"
  | memberName _ | noJson _ | notIterable _ | notOrdered .. | noLength _ | unhashable _
  | wrongKind _ => "TypeError"
  | noAttribute .. => "AttributeError"
  | repetitionCount | sizeLimit | overflow _ => "OverflowError"
  | raised _ => "RuntimeError"
  | tooDeep _ => "RecursionError"
  | unfit _ => "ValidationError"
  | unstorable _ => "PydanticSerializationError"

/-- The wording, or the name of the kind if there is no wording. -/
def report (f : Fault) : String := if f.message = "" then f.name else f.message

end Fault

end MessageRouting
