import MessageRouting.Decimal.Numeral
import MessageRouting.Text.Blank
import MessageRouting.Text.Lowercase
import MessageRouting.Value
import MessageRouting.Yaml.Fault

/-!
# Scalars of YAML

What a scalar without a tag means, by its spelling: `Tag.ofPlain` tells truth values, integers in
four notations and in base sixty, numbers, dates, times and null apart from texts, and
`Tag.convert` makes the value.
-/

namespace MessageRouting.Yaml

/-- The kind of a node. -/
inductive Tag where
  /-- Null. -/
  | null
  /-- A truth value. -/
  | bool
  /-- An integer. -/
  | int
  /-- A double. -/
  | float
  /-- A date or time. -/
  | timestamp
  /-- A text. -/
  | text
  /-- The sign `<<` for members to take over. -/
  | merge
  /-- The sign `=`. -/
  | default
  /-- A list. -/
  | sequence
  /-- An object. -/
  | mapping
  /-- Bytes. -/
  | binary
  /-- A set. -/
  | set
  /-- A list of pairs. -/
  | pairs
  /-- Any other kind. -/
  | other
deriving DecidableEq, Repr

namespace Scalar

/-! ## Spellings -/

/-- Drops a sign. -/
def unsigned : List Char → List Char
  | '+' :: cs | '-' :: cs => cs
  | cs => cs

/-- Whether a character is a digit or an underscore. -/
def isSpacedDigit (c : Char) : Bool := Decimal.isDigit c || c = '_'

/-- Whether a text is digits and underscores and begins with a digit. -/
def isSpacedNumber : List Char → Bool
  | [] => false
  | c :: cs => Decimal.isDigit c && cs.all isSpacedDigit

/-- The parts of a text between colons. -/
def colonParts : List Char → List (List Char)
  | [] => [[]]
  | c :: cs =>
    match colonParts cs with
    | [] => [[c]]
    | p :: ps => if c = ':' then [] :: p :: ps else (c :: p) :: ps

/-- Whether a text is a place in a number of base sixty: one digit, or two below sixty. -/
def isSixtieth : List Char → Bool
  | [a] => Decimal.isDigit a
  | [a, b] => '0' ≤ a && a ≤ '5' && Decimal.isDigit b
  | _ => false

/-- Whether a text spells an integer. -/
def isInteger (cs : List Char) : Bool :=
  match unsigned cs with
  | '0' :: 'b' :: ds => !ds.isEmpty && ds.all fun c => c = '0' || c = '1' || c = '_'
  | '0' :: 'x' :: ds =>
    !ds.isEmpty && ds.all fun c =>
      Decimal.isDigit c || 'a' ≤ c && c ≤ 'f' || 'A' ≤ c && c ≤ 'F' || c = '_'
  | '0' :: ds => ds.all fun c => '0' ≤ c && c ≤ '7' || c = '_'
  | ds =>
    match colonParts ds with
    | [] => false
    | first :: places => isSpacedNumber first && places.all isSixtieth

/-- Whether a text is an exponent with a sign, or nothing. -/
def isExponent : List Char → Bool
  | [] => true
  | e :: s :: ds =>
    (e = 'e' || e = 'E') && (s = '+' || s = '-') && !ds.isEmpty && ds.all Decimal.isDigit
  | _ => false

/-- Whether a text spells a number that is no integer. -/
def isNumber (cs : List Char) : Bool :=
  let body := unsigned cs
  let whole := body.takeWhile isSpacedDigit
  let afterWhole := body.drop whole.length
  let pointed : Bool := match afterWhole with
    | '.' :: rest => isSpacedNumber whole && isExponent (rest.dropWhile isSpacedDigit)
    | _ => false
  let leading : Bool := match cs with
    | '.' :: c :: rest => Decimal.isDigit c && isExponent (rest.dropWhile isSpacedDigit)
    | _ => false
  let sixtieths : Bool :=
    match body.span (· ≠ '.') with
    | (front, '.' :: rest) =>
      rest.all isSpacedDigit &&
        match colonParts front with
        | first :: p :: ps => isSpacedNumber first && (p :: ps).all isSixtieth
        | _ => false
    | _ => false
  pointed || leading || sixtieths ||
    [".inf", ".Inf", ".INF"].contains (String.ofList body) ||
    [".nan", ".NaN", ".NAN"].contains (String.ofList cs)

/-- Digits that a part of a date or time begins with, at least one and at most two. -/
def oneOrTwo (cs : List Char) : Option (Nat × List Char) :=
  match cs with
  | a :: b :: rest =>
    if !Decimal.isDigit a then none
    else if Decimal.isDigit b then some (Decimal.value [a, b], rest)
    else some (Decimal.value [a], b :: rest)
  | [a] => if Decimal.isDigit a then some (Decimal.value [a], []) else none
  | [] => none

/-- Exactly `count` digits. -/
def exactDigits (count : Nat) (cs : List Char) : Option (Nat × List Char) :=
  let ds := cs.take count
  if ds.length = count && ds.all Decimal.isDigit then some (Decimal.value ds, cs.drop count)
  else none

/-- A character that has to come next. -/
def sign? (c : Char) : List Char → Option (List Char)
  | d :: rest => if d = c then some rest else none
  | [] => none

/-- Whether a character is a blank or a tab. -/
def isGap (c : Char) : Bool := c = ' ' || c = '\t'

/-- The parts of a date or time. -/
structure Stamp where
  /-- The year. -/
  year : Nat
  /-- The month. -/
  month : Nat
  /-- The day. -/
  day : Nat
  /-- Hour, minute, second, microsecond and offset of a time. -/
  clock : Option (Nat × Nat × Nat × Nat × Option Int)

/-- The offset of a time zone, in minutes, up to the end. -/
def zone (cs : List Char) : Option (Option Int) :=
  match cs.dropWhile isGap with
  | [] => if cs = [] then some none else none
  | ['Z'] => some (some 0)
  | s :: rest => do
    if s ≠ '+' && s ≠ '-' then none
    let (hours, rest) ← oneOrTwo rest
    let minutes ← match rest with
      | [] => some 0
      | rest => do
        let (m, rest) ← exactDigits 2 (← sign? ':' rest)
        if rest = [] then some m else none
    let offset : Int := hours * 60 + minutes
    return some (if s = '-' then -offset else offset)

/-- A fraction of a second, in microseconds. -/
def fraction : List Char → Nat × List Char
  | '.' :: rest =>
    let (ds, rest) := Decimal.span rest
    (Decimal.value ((ds ++ List.replicate 6 '0').take 6), rest)
  | cs => (0, cs)

/-- The parts that a date or time is spelled with. -/
def stamp? (cs : List Char) : Option Stamp := do
  let (year, rest) ← exactDigits 4 cs
  let (month, rest) ← oneOrTwo (← sign? '-' rest)
  let (day, rest) ← oneOrTwo (← sign? '-' rest)
  if rest = [] then return ⟨year, month, day, none⟩
  let rest ← match rest with
    | 'T' :: r | 't' :: r => some r
    | c :: _ => if isGap c then some (rest.dropWhile isGap) else none
    | [] => none
  let (hour, rest) ← oneOrTwo rest
  let (minute, rest) ← exactDigits 2 (← sign? ':' rest)
  let (second, rest) ← exactDigits 2 (← sign? ':' rest)
  let (microsecond, rest) := fraction rest
  let offset ← zone rest
  return ⟨year, month, day, some (hour, minute, second, microsecond, offset)⟩

/-- Whether a text without a tag is a date or time: a date alone needs two digits for its month and
its day. -/
def isTimestamp (cs : List Char) : Bool :=
  match stamp? cs with
  | some s => s.clock.isSome || cs.length = 10
  | none => false

/-- The words for truth values. -/
def trueWords : List String := ["yes", "true", "on"]

/-- The words for the other truth value. -/
def falseWords : List String := ["no", "false", "off"]

/-- A word in lower case, with a capital, and in capitals. -/
def spellings (w : String) : List String := [w, w.capitalize, w.toUpper]

/-! ## Conversion -/

/-- The digit of a character in a base up to sixteen. -/
def digitIn? (base : Nat) (c : Char) : Option Nat :=
  let d :=
    if Decimal.isDigit c then c.toNat - 48
    else if 'a' ≤ c && c ≤ 'z' then c.toNat - 87
    else if 'A' ≤ c && c ≤ 'Z' then c.toNat - 55
    else 99
  if d < base then some d else none

/-- An integer in a base, with blanks around it and perhaps a sign. -/
def integerIn (base : Nat) (cs : List Char) : Except Fault Int :=
  let trimmed := Text.trim cs
  let negative := trimmed.head? = some '-'
  let digits := unsigned trimmed
  match digits.mapM (digitIn? base) with
  | none | some [] => .error (.notInteger base cs)
  | some ds =>
    if base = 10 && MessageRouting.Fault.maxDigits < ds.length then .error (.digits ds.length)
    else
      let n := ds.foldl (fun n d => base * n + d) 0
      .ok (if negative then -(n : Int) else n)

/-- Drops underscores. -/
def withoutUnderscores (cs : List Char) : List Char := cs.filter (· ≠ '_')

/-- The integer that a text spells. -/
def integer (cs : List Char) : Except Fault Int := do
  let body := withoutUnderscores cs
  let sign : Int := if body.head? = some '-' then -1 else 1
  if body = [] then throw .emptyNumber
  match unsigned body with
  | ['0'] => return 0
  | '0' :: 'b' :: ds => return sign * (← integerIn 2 ds)
  | '0' :: 'x' :: ds => return sign * (← integerIn 16 ds)
  | '0' :: 'o' :: ds => return sign * (← integerIn 8 ds)
  | [] => throw .emptyNumber
  | ds =>
    if ds.head? = some '0' then return sign * (← integerIn 8 ds)
    if ds.contains ':' then
      let places ← (colonParts ds).mapM (integerIn 10)
      return sign * places.foldl (fun n p => 60 * n + p) 0
    return sign * (← integerIn 10 ds)

/-- The double that digits with a point or an exponent spell. -/
def decimal? (cs : List Char) : Option Binary64 :=
  let (negative, body) := match cs with
    | '-' :: r => (true, r)
    | '+' :: r => (false, r)
    | r => (false, r)
  match String.ofList (Text.lower body) with
  | "inf" | "infinity" => some (.infinity negative)
  | "nan" => some .nan
  | _ =>
    let (whole, rest) := Decimal.span body
    let (fraction, rest) := match rest with
      | '.' :: r => Decimal.span r
      | r => ([], r)
    if whole = [] && fraction = [] then none
    else
      match rest, Decimal.exponentPart rest with
      | [], _ => some (Decimal.Numeral.mk negative whole fraction 0).toBinary64
      | _, some (e, []) => some (Decimal.Numeral.mk negative whole fraction e).toBinary64
      | _, _ => none

/-- The double that a text spells. -/
def decimal (cs : List Char) : Except Fault Binary64 :=
  match decimal? (Text.trim cs) with
  | some x => .ok x
  | none => .error (.notNumber cs)

/-- A double with the other sign. -/
def negated (x : Binary64) : Binary64 := if x.isNaN then x else ⟨x.bits ^^^ ((1 : UInt64) <<< 63)⟩

/-- The number that places of base sixty denote, the last first. The worth of a place is an exact
integer, which has to be converted to a double. -/
def sixtieths : List Binary64 → Nat → Float → Except Fault Float
  | [], _, sum => .ok sum
  | p :: ps, worth, sum =>
    let x := Binary64.ofInt worth
    if x.isFinite then sixtieths ps (worth * 60) (sum + p.toFloat * x.toFloat)
    else .error .overflow

/-- The double that a text spells. -/
def number (cs : List Char) : Except Fault Binary64 := do
  let body := Text.lower (withoutUnderscores cs)
  if body = [] then throw .emptyNumber
  let signed (x : Binary64) : Binary64 := if body.head? = some '-' then negated x else x
  match unsigned body with
  | ['.', 'i', 'n', 'f'] => return signed (.infinity false)
  | ['.', 'n', 'a', 'n'] => return .nan
  | ds =>
    if ds.contains ':' then
      let places ← (colonParts ds).mapM decimal
      return signed (.ofFloat (← sixtieths places.reverse 1 0))
    return signed (← decimal ds)

/-- The truth value that a text spells. -/
def boolean (cs : List Char) : Except Fault Bool :=
  let word := Text.lower cs
  if trueWords.contains (String.ofList word) then .ok true
  else if falseWords.contains (String.ofList word) then .ok false
  else .error (.notBoolean word)

/-- The date or time that a text spells. -/
def moment (cs : List Char) : Except Fault Moment :=
  let checked {α : Type} (r : Except CalendarFault α) : Except Fault α := r.mapError .calendar
  match stamp? cs with
  | none => .error .notTimestamp
  | some s =>
    match s.clock with
    | none => (checked (Date.make s.year s.month s.day)).map .day
    | some (hour, minute, second, microsecond, offset) =>
      checked (Moment.make s.year s.month s.day hour minute second microsecond offset)

/-- The number of a character of base sixty-four. -/
def sextet? (c : Char) : Option Nat :=
  if 'A' ≤ c && c ≤ 'Z' then some (c.toNat - 65)
  else if 'a' ≤ c && c ≤ 'z' then some (c.toNat - 71)
  else if Decimal.isDigit c then some (c.toNat + 4)
  else if c = '+' then some 62
  else if c = '/' then some 63
  else none

/-- Bytes in base sixty-four, after some characters of a group of four and some signs `=` behind
them; `held` are the bits that belong to the next byte. Two characters and two signs, or three and
one, end the text, and what is neither means nothing. -/
def base64 (taken held signs : Nat) : List Char → Option (List UInt8)
  | [] => if taken = 0 then some [] else none
  | '=' :: cs =>
    if taken < 2 then base64 taken held signs cs
    else if 3 ≤ taken + signs then some []
    else base64 taken held (signs + 1) cs
  | c :: cs =>
    match sextet? c, taken with
    | none, _ => base64 taken held signs cs
    | some n, 0 => base64 1 n 0 cs
    | some n, 1 => (base64 2 (n % 16) 0 cs).map (UInt8.ofNat (held * 4 + n / 16) :: ·)
    | some n, 2 => (base64 3 (n % 4) 0 cs).map (UInt8.ofNat (held * 16 + n / 4) :: ·)
    | some n, _ => (base64 0 0 0 cs).map (UInt8.ofNat (held * 64 + n) :: ·)

/-- The bytes that a text spells. -/
def binary (cs : List Char) : Except Fault (List UInt8) :=
  if cs.all fun c => c.toNat < 128 then
    match base64 0 0 0 cs with
    | some data => .ok data
    | none => .error .malformed
  else .error .malformed

end Scalar

namespace Tag

/-- The kind of a scalar without quotes and tag. -/
def ofPlain (cs : List Char) : Tag :=
  let word := String.ofList cs
  if (Scalar.trueWords ++ Scalar.falseWords).any fun w => (Scalar.spellings w).contains word then
    .bool
  else if Scalar.isNumber cs then .float
  else if Scalar.isInteger cs then .int
  else if word = "<<" then .merge
  else if ["", "~", "null", "Null", "NULL"].contains word then .null
  else if Scalar.isTimestamp cs then .timestamp
  else if word = "=" then .default
  else .text

/-- The kind that a tag written out in full names. -/
def ofName (name : String) : Tag :=
  match name with
  | "tag:yaml.org,2002:null" => .null
  | "tag:yaml.org,2002:bool" => .bool
  | "tag:yaml.org,2002:int" => .int
  | "tag:yaml.org,2002:float" => .float
  | "tag:yaml.org,2002:timestamp" => .timestamp
  | "tag:yaml.org,2002:str" => .text
  | "tag:yaml.org,2002:merge" => .merge
  | "tag:yaml.org,2002:value" => .default
  | "tag:yaml.org,2002:seq" => .sequence
  | "tag:yaml.org,2002:map" => .mapping
  | "tag:yaml.org,2002:binary" => .binary
  | "tag:yaml.org,2002:set" => .set
  | "tag:yaml.org,2002:omap" | "tag:yaml.org,2002:pairs" => .pairs
  | _ => .other

/-- Whether a kind is one of lists or mappings, which are filled after they have been made. -/
def isContainer : Tag → Bool
  | sequence | mapping | set | pairs => true
  | _ => false

/-- The value of a scalar of a kind. -/
def convert (tag : Tag) (cs : List Char) : Except Fault MessageRouting.Scalar :=
  match tag with
  | .null => .ok .null
  | .bool => (Scalar.boolean cs).map .bool
  | .int => (Scalar.integer cs).map .int
  | .float => (Scalar.number cs).map .float
  | .timestamp => (Scalar.moment cs).map .moment
  | .text => .ok (.text (String.ofList cs))
  | .binary => (Scalar.binary cs).map .bytes
  | .merge | .default | .sequence | .mapping | .set | .pairs | .other => .error .malformed

/-- The value of a scalar of a kind whose code points are not all characters. -/
def convertBroken (tag : Tag) (codes : List Nat) : Except Fault MessageRouting.Scalar :=
  if tag = .text then .ok (.broken codes)
  else convert tag (MessageRouting.Scalar.shownCodes codes)

/-- The value of a mapping of the kind of a scalar, in which a text is given under `=`. -/
def convertGiven (tag : Tag) (codes : List Nat) : Except Fault MessageRouting.Scalar :=
  if tag = .timestamp then .error .notText
  else if codes.all MessageRouting.Scalar.isCharCode then convert tag (codes.map Char.ofNat)
  else convertBroken tag codes

end Tag

end MessageRouting.Yaml
