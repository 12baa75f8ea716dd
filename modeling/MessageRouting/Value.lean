import MessageRouting.Binary64
import MessageRouting.Calendar

/-!
# Values

The data that messages carry and that rules speak of: null, booleans, integers of any size,
doubles, text, dates, lists and objects. An object is a list of members in insertion order. Its
names are usually texts, but a rule file can give any scalar; two names are one if they are equal
as numbers (`true`, `1` and `1.0`) or identical otherwise (a NaN is one name). A rule file can also
give what messages do not have: bytes, sets and pairs, and texts in which half of a surrogate pair
stands alone.
-/

namespace MessageRouting

/-- A value without parts. -/
inductive Scalar where
  /-- No value. -/
  | null
  /-- A truth value. -/
  | bool (b : Bool)
  /-- An integer of any size. -/
  | int (n : Int)
  /-- A double. -/
  | float (x : Binary64)
  /-- A text. -/
  | text (s : String)
  /-- A date or time. -/
  | moment (m : Moment)
  /-- Bytes. -/
  | bytes (data : List UInt8)
  /-- A text by its code points, which are not all characters. -/
  | broken (codes : List Nat)
deriving DecidableEq, Inhabited, Repr

/-- A value. -/
inductive Value where
  /-- A value without parts. -/
  | scalar (s : Scalar)
  /-- A list. -/
  | list (items : List Value)
  /-- An object: its members in insertion order. -/
  | object (members : List (Scalar × Value))
  /-- A set: its elements in the order in which they were given. -/
  | set (elements : List Scalar)
  /-- Two values that belong together. -/
  | pair (first second : Value)
deriving Inhabited, Repr

namespace Scalar

/-- The integer that a boolean counts as. -/
def ofBool (b : Bool) : Int := if b then 1 else 0

/-- Whether two scalars are one name in an object. -/
def sameName : Scalar → Scalar → Bool
  | null, null => true
  | text s, text t => s = t
  | moment m, moment n => m.same n
  | bytes a, bytes b => a = b
  | broken a, broken b => a = b
  | bool a, bool b => a = b
  | bool a, int n | int n, bool a => ofBool a = n
  | bool a, float x | float x, bool a => Binary64.compareInt? (ofBool a) x = some .eq
  | int m, int n => m = n
  | int n, float x | float x, int n => Binary64.compareInt? n x = some .eq
  | float x, float y => x.compare? y = some .eq || x.isNaN && y.isNaN
  | _, _ => false

/-- The only name that is the same as a text is that text. -/
theorem sameName_text_iff {s : Scalar} {name : String} :
    s.sameName (text name) = true ↔ s = text name := by
  cases s <;> simp [sameName]

/-- Whether a number is the code point of a character. -/
def isCharCode (code : Nat) : Bool := code < 0xD800 || 0xE000 ≤ code && code < 0x110000

/-- The text of code points. -/
def ofCodes (codes : List Nat) : Scalar :=
  if codes.all isCharCode then text (String.ofList (codes.map Char.ofNat)) else broken codes

theorem isCharCode_toNat (c : Char) : isCharCode c.toNat = true := by
  have h := c.valid
  simp only [UInt32.isValidChar, Nat.isValidChar] at h
  simp only [isCharCode, Bool.or_eq_true, Bool.and_eq_true, decide_eq_true_eq, Char.toNat]
  omega

/-- The text of the codes of characters. -/
theorem ofCodes_toNat (cs : List Char) : ofCodes (cs.map Char.toNat) = text (String.ofList cs) := by
  have hall : (cs.map Char.toNat).all isCharCode = true := by simp [isCharCode_toNat]
  simp [ofCodes, hall, Function.comp_def]

/-- The character of private use that stands for half of a surrogate pair, which is no character. -/
def standIn (code : Nat) : Char := Char.ofNat (0x10F000 + (code - 0xD800))

/-- Code points as characters, with stand-ins for those that are none. -/
def shownCodes (codes : List Nat) : List Char :=
  codes.map fun code => if isCharCode code then Char.ofNat code else standIn code

/-- The name of the kind of a scalar, as messages spell it. -/
def kind : Scalar → String
  | null => "NoneType"
  | bool _ => "bool"
  | int _ => "int"
  | float _ => "float"
  | text _ => "str"
  | moment (.day _) => "datetime.date"
  | moment (.time ..) => "datetime.datetime"
  | bytes _ => "bytes"
  | broken _ => "str"

end Scalar

namespace Value

/-- The null value. -/
@[match_pattern] abbrev null : Value := .scalar .null
/-- A truth value. -/
@[match_pattern] abbrev bool (b : Bool) : Value := .scalar (.bool b)
/-- An integer. -/
@[match_pattern] abbrev int (n : Int) : Value := .scalar (.int n)
/-- A double. -/
@[match_pattern] abbrev float (x : Binary64) : Value := .scalar (.float x)
/-- A text. -/
@[match_pattern] abbrev text (s : String) : Value := .scalar (.text s)
/-- A date or time. -/
@[match_pattern] abbrev moment (m : Moment) : Value := .scalar (.moment m)

/-- A natural number. -/
abbrev nat (n : Nat) : Value := .int n

/-- A text, or null. -/
def textOrNull : Option String → Value
  | some s => .text s
  | none => .null

/-- An object whose names are texts. -/
def record (members : List (String × Value)) : Value :=
  .object (members.map fun (name, v) => (.text name, v))

/-- The name of the kind of a value, as messages spell it. -/
def kind : Value → String
  | scalar s => s.kind
  | list _ => "list"
  | object _ => "dict"
  | set _ => "set"
  | pair .. => "tuple"

/-- Whether the value is null. -/
def isNull : Value → Bool
  | null => true
  | _ => false

/-- Anything but null and false holds. -/
def holds : Value → Bool
  | null => false
  | bool b => b
  | _ => true

/-- Whether a value counts as given: null, false, zero and everything empty do not. -/
def isFilled : Value → Bool
  | null => false
  | bool b => b
  | int n => n ≠ 0
  | float x => x.isNaN || x.bits.toNat % Nat.pow 2 63 ≠ 0
  | text s => s ≠ ""
  | moment _ => true
  | scalar (.bytes data) => !data.isEmpty
  | scalar (.broken codes) => !codes.isEmpty
  | list xs => !xs.isEmpty
  | object ms => !ms.isEmpty
  | set es => !es.isEmpty
  | pair .. => true

mutual

/-- How many lists, objects, sets and pairs stand inside each other, where an empty one counts
`bare`. -/
def levels (bare : Nat) : Value → Nat
  | scalar _ => 0
  | list xs => if xs.isEmpty then bare else itemsLevels bare xs + 1
  | object ms => if ms.isEmpty then bare else membersLevels bare ms + 1
  | set es => if es.isEmpty then bare else 1
  | pair v w => max (levels bare v) (levels bare w) + 1

/-- The most levels of items. -/
def itemsLevels (bare : Nat) : List Value → Nat
  | [] => 0
  | v :: vs => max (levels bare v) (itemsLevels bare vs)

/-- The most levels of the values of members. -/
def membersLevels (bare : Nat) : List (Scalar × Value) → Nat
  | [] => 0
  | (_, v) :: ms => max (levels bare v) (membersLevels bare ms)

end

/-- How many lists, objects, sets and pairs stand inside each other. -/
abbrev height (v : Value) : Nat := levels 1 v

@[simp] theorem height_list (xs : List Value) : (list xs).height = itemsLevels 1 xs + 1 := by
  cases xs <;> rfl

@[simp] theorem height_object (ms : List (Scalar × Value)) :
    (object ms).height = membersLevels 1 ms + 1 := by
  cases ms <;> rfl

@[simp] theorem height_pair (v w : Value) : (pair v w).height = max v.height w.height + 1 := rfl

theorem itemsLevels_cons (v : Value) (vs : List Value) :
    itemsLevels 1 (v :: vs) = max v.height (itemsLevels 1 vs) := by
  rw [itemsLevels]

theorem membersLevels_cons (name : Scalar) (v : Value) (ms : List (Scalar × Value)) :
    membersLevels 1 ((name, v) :: ms) = max v.height (membersLevels 1 ms) := by
  rw [membersLevels]

/-- The value of a member of an object. -/
def memberOf? (members : List (Scalar × Value)) (name : Scalar) : Option Value :=
  (members.find? fun m => m.1.sameName name).map (·.2)

/-- Sets a member: a name that is there keeps its place and its spelling. -/
def setMember (members : List (Scalar × Value)) (name : Scalar) (v : Value) :
    List (Scalar × Value) :=
  if members.any fun m => m.1.sameName name then
    members.map fun m => if m.1.sameName name then (m.1, v) else m
  else members ++ [(name, v)]

/-- The value that an object holds under a text; nothing else has members. -/
def get? : Value → String → Option Value
  | object ms, name => memberOf? ms (.text name)
  | _, _ => none

end Value

end MessageRouting
