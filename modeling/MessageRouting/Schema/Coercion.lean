import MessageRouting.Decimal.Numeral
import MessageRouting.Fault
import MessageRouting.Schema
import MessageRouting.Text.Blank

/-!
# Lenient reading of numbers and truth values

Numbers and truth values are accepted in several forms: an integer can be given as a whole double,
as a truth value or as a text, a double as an integer or a text, and a truth value as 0 or 1 or by
one of a few words. Bytes that encode a text are taken as that text.
-/

namespace MessageRouting.Schema

/-- Digits in which single underscores may stand between two digits; without the underscores. -/
def spacedDigits : List Char → Option (List Char)
  | [] => none
  | [c] => if Decimal.isDigit c then some [c] else none
  | c :: '_' :: rest => if Decimal.isDigit c then (spacedDigits rest).map (c :: ·) else none
  | c :: rest => if Decimal.isDigit c then (spacedDigits rest).map (c :: ·) else none

/-- Drops zeros and underscores in front of a digit. -/
def withoutLeadingZeros : List Char → List Char
  | c :: d :: rest =>
    if c = '0' || c = '_' then withoutLeadingZeros (d :: rest) else c :: d :: rest
  | cs => cs

/-- Drops a point followed by zeros, and by nothing else. -/
def withoutZeroFraction (cs : List Char) : List Char :=
  match cs.span (· ≠ '.') with
  | (front, _ :: zeros) => if front ≠ [] && zeros ≠ [] && zeros.all (· = '0') then front else cs
  | _ => cs

/-- The integer that a text spells: blanks around it, a sign, single underscores between digits and
a fraction of zeros are allowed. -/
def integerOfText (cs : List Char) : Checked Int :=
  let trimmed := Text.trimBy Text.isSpacing cs
  let (negative, body) := match trimmed with
    | '-' :: r => (true, r)
    | '+' :: r => (false, r)
    | r => (false, r)
  match body with
  | c :: _ =>
    if !Decimal.isDigit c then .reject .integerText
    else
      match spacedDigits (withoutLeadingZeros (withoutZeroFraction body)) with
      | some ds =>
        if Fault.maxDigits < ds.length then .reject .integerSize
        else .accepted (Decimal.signedValue negative ds)
      | none => .reject .integerText
  | [] => .reject .integerText

/-- The integer that a double is, if it is within 64 bits. -/
def integerOfFloat (x : Binary64) : Checked Int :=
  if !x.isFinite then .reject .infinite
  else
    match x.toInt? with
    | none => .reject .fraction
    | some n =>
      if -(Nat.pow 2 63 : Nat) < n && n < (Nat.pow 2 63 : Nat) then .accepted n
      else .reject .integerSize

/-- An integer. -/
def integer : Check Int
  | .int n => .accepted n
  | .bool b => .accepted (Scalar.ofBool b)
  | .float x => integerOfFloat x
  | .text s => integerOfText s.toList
  | .scalar (.bytes data) =>
    match textOfBytes? data with
    | some s => integerOfText s.toList
    | none => .reject .integerText
  | .scalar (.broken _) => .reject .unicode
  | _ => .reject .integer

/-- The words for true. -/
def trueWords : List String := ["1", "t", "true", "y", "yes", "on"]

/-- The words for false. -/
def falseWords : List String := ["0", "f", "false", "n", "no", "off"]

/-- The truth value that an integer stands for. -/
def booleanOfInt (n : Int) : Checked Bool :=
  if n = 0 then .accepted false
  else if n = 1 then .accepted true
  else if -(Nat.pow 2 63 : Nat) ≤ n && n < (Nat.pow 2 63 : Nat) then .reject .booleanText
  else .reject .boolean

/-- The truth value that a word stands for. -/
def booleanOfText (s : String) : Checked Bool :=
  let word := s.map Char.toLower
  if trueWords.contains word then .accepted true
  else if falseWords.contains word then .accepted false
  else .reject .booleanText

/-- A truth value. -/
def boolean : Check Bool
  | .bool b => .accepted b
  | .int n => booleanOfInt n
  | .float x =>
    match integerOfFloat x with
    | .accepted n => booleanOfInt n
    | .rejected _ => .reject .boolean
  | .text s => booleanOfText s
  | .scalar (.bytes data) =>
    match textOfBytes? data with
    | some s => booleanOfText s
    | none => .reject .booleanText
  | .scalar (.broken _) => .reject .unicode
  | _ => .reject .boolean

/-- The double that a text spells. -/
def numberOfText? (cs : List Char) : Option Binary64 :=
  let (negative, body) := match cs with
    | '-' :: r => (true, r)
    | '+' :: r => (false, r)
    | r => (false, r)
  match String.ofList (body.map Char.toLower) with
  | "inf" | "infinity" => some (.infinity negative)
  | "nan" => some .nan
  | _ =>
    let (whole, rest) := Decimal.span body
    let (fraction, rest) := match rest with
      | '.' :: r => Decimal.span r
      | r => ([], r)
    if whole = [] && fraction = [] then none
    else
      match rest, Decimal.exponentPart rest with
      | [], _ => some (Decimal.Numeral.mk negative whole fraction 0).toBinary64
      | _, some (e, []) => some (Decimal.Numeral.mk negative whole fraction e).toBinary64
      | _, _ => none

/-- Whether two underscores stand side by side. -/
def hasDoubleUnderscore : List Char → Bool
  | '_' :: '_' :: _ => true
  | _ :: rest => hasDoubleUnderscore rest
  | [] => false

/-- Drops single underscores inside a text; without result if there are others. -/
def withoutInnerUnderscores (cs : List Char) : Option (List Char) :=
  if cs.head? = some '_' || cs.getLast? = some '_' || hasDoubleUnderscore cs then none
  else some (cs.filter (· ≠ '_'))

/-- The double that a text spells, with blanks around it or with underscores between its
characters, but not with both. -/
def numberOfSpacedText? (cs : List Char) : Option Binary64 :=
  numberOfText? (Text.trimBy Text.isSpacing cs) <|> (withoutInnerUnderscores cs).bind numberOfText?

/-- The double that a text with blanks or underscores spells. -/
def numberOfText (s : String) : Checked Binary64 :=
  match numberOfSpacedText? s.toList with
  | some x => .accepted x
  | none => .reject .numberText

/-- A double. -/
def number : Check Binary64
  | .float x => .accepted x
  | .int n =>
    let x := Binary64.ofInt n
    if x.isFinite then .accepted x else .reject .number
  | .bool b => .accepted (.ofInt (Scalar.ofBool b))
  | .text s => numberOfText s
  | .scalar (.bytes data) =>
    match textOfBytes? data with
    | some s => numberOfText s
    | none => .reject .numberText
  | .scalar (.broken _) => .reject .unicode
  | _ => .reject .number

/-- An integer that is not below a bound. -/
def integerFrom (least : Int) : Check Int := fun v =>
  (integer v).andThen fun n => if n < least then .reject (.least least) else .accepted n

/-- A double that is not below zero; a NaN is not. -/
def duration : Check Binary64 := fun v =>
  (number v).andThen fun x =>
    if Binary64.compareInt? 0 x = some .gt then .reject (.least 0) else .accepted x

end MessageRouting.Schema
