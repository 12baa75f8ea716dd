import MessageRouting.Value

/-!
# Checking data against a shape

A check turns a value into a typed record, or rejects it with one complaint for each part that does
not fit, in the order of the declared fields. A complaint names its place by member names and
positions. `Checked` collects the complaints of independent parts.
-/

namespace MessageRouting.Schema

/-- A step on the way from a value to one of its parts. -/
inductive PlaceStep where
  /-- To a member of an object. -/
  | member (name : String)
  /-- To an item of a list. -/
  | item (index : Nat)
deriving DecidableEq, Repr

/-- Why a part does not fit. -/
inductive Cause where
  /-- A member that has to be there is not. -/
  | missing
  /-- Not a text. -/
  | text
  /-- A text or bytes that are not all characters. -/
  | unicode
  /-- An empty text. -/
  | emptyText
  /-- Not an integer. -/
  | integer
  /-- A text that does not spell an integer. -/
  | integerText
  /-- An integer beyond the sizes that are read. -/
  | integerSize
  /-- A number with a fraction where an integer should be. -/
  | fraction
  /-- An infinite number or a NaN where an integer should be. -/
  | infinite
  /-- Not a truth value. -/
  | boolean
  /-- A text or number that does not stand for a truth value. -/
  | booleanText
  /-- Not a number. -/
  | number
  /-- A text that does not spell a number. -/
  | numberText
  /-- Not a list. -/
  | list
  /-- Not an object. -/
  | object
  /-- Not an object with the members of a record. -/
  | record (kind : String)
  /-- Not an object from which the variant could be told. -/
  | variantObject
  /-- No variant has this tag. -/
  | unknownVariant (tag : String) (tags : List String)
  /-- An object without the member that tells the variant. -/
  | noVariant
  /-- None of the names of an enumeration. -/
  | enumeration (names : List String)
  /-- None of some texts. -/
  | oneOf (texts : List String)
  /-- A rule that concerns several parts is broken. -/
  | rule (wording : String)
  /-- A number below the least one. -/
  | least (bound : Int)
  /-- A member that the record does not have. -/
  | extra
  /-- A member of a record that does not change was to be set. -/
  | frozen
deriving DecidableEq, Repr

/-- A cause and its place. -/
structure Complaint where
  /-- Where. -/
  place : List PlaceStep
  /-- Why. -/
  cause : Cause
deriving DecidableEq, Repr

namespace Cause

/-- Texts in quotes with commas between them, and “or” before the last. -/
def alternatives : List String → String
  | [] => ""
  | [s] => quoted s
  | [s, t] => quoted s ++ " or " ++ quoted t
  | s :: rest => quoted s ++ ", " ++ alternatives rest
where
  /-- A text in quotes. -/
  quoted (s : String) : String := "'" ++ s ++ "'"

/-- The short name of a cause. -/
def code : Cause → String
  | missing => "missing"
  | text => "string_type"
  | unicode => "string_unicode"
  | emptyText => "string_too_short"
  | integer => "int_type"
  | integerText => "int_parsing"
  | integerSize => "int_parsing_size"
  | fraction => "int_from_float"
  | infinite => "finite_number"
  | boolean => "bool_type"
  | booleanText => "bool_parsing"
  | number => "float_type"
  | numberText => "float_parsing"
  | list => "list_type"
  | object => "dict_type"
  | record _ => "model_type"
  | variantObject => "model_attributes_type"
  | unknownVariant .. => "union_tag_invalid"
  | noVariant => "union_tag_not_found"
  | enumeration _ => "enum"
  | oneOf _ => "literal_error"
  | rule _ => "value_error"
  | least _ => "greater_than_equal"
  | extra => "extra_forbidden"
  | frozen => "frozen_instance"

/-- The wording of a cause. -/
def message : Cause → String
  | missing => "Field required"
  | text => "Input should be a valid string"
  | unicode => "Input should be a valid string, unable to parse raw data as a unicode string"
  | emptyText => "String should have at least 1 character"
  | integer => "Input should be a valid integer"
  | integerText => "Input should be a valid integer, unable to parse string as an integer"
  | integerSize => "Unable to parse input string as an integer, exceeded maximum size"
  | fraction => "Input should be a valid integer, got a number with a fractional part"
  | infinite => "Input should be a finite number"
  | boolean => "Input should be a valid boolean"
  | booleanText => "Input should be a valid boolean, unable to interpret input"
  | number => "Input should be a valid number"
  | numberText => "Input should be a valid number, unable to parse string as a number"
  | list => "Input should be a valid list"
  | object => "Input should be a valid dictionary"
  | record kind => "Input should be a valid dictionary or instance of " ++ kind
  | variantObject => "Input should be a valid dictionary or object to extract fields from"
  | unknownVariant tag tags =>
    "Input tag '" ++ tag ++ "' found using 'type' does not match any of the expected tags: " ++
      ", ".intercalate (tags.map alternatives.quoted)
  | noVariant => "Unable to extract tag using discriminator 'type'"
  | enumeration names | oneOf names => "Input should be " ++ alternatives names
  | rule wording => "Value error, " ++ wording
  | least bound => "Input should be greater than or equal to " ++ toString bound
  | extra => "Extra inputs are not permitted"
  | frozen => "Instance is frozen"

end Cause

/-- The outcome of a check. -/
inductive Checked (α : Type) where
  /-- The value fits. -/
  | accepted (a : α)
  /-- It does not, for these reasons. -/
  | rejected (complaints : List Complaint)
deriving Repr

/-- A check of a value. -/
abbrev Check (α : Type) := Value → Checked α

namespace Checked

/-- Applies a function to what was accepted. -/
def map {α β : Type} (f : α → β) : Checked α → Checked β
  | accepted a => accepted (f a)
  | rejected cs => rejected cs

/-- Both results, or the complaints of both. -/
def both {α β : Type} : Checked α → Checked β → Checked (α × β)
  | accepted a, accepted b => accepted (a, b)
  | accepted _, rejected cs => rejected cs
  | rejected cs, accepted _ => rejected cs
  | rejected cs, rejected ds => rejected (cs ++ ds)

/-- All results, or the complaints of all. -/
def all {α : Type} : List (Checked α) → Checked (List α)
  | [] => accepted []
  | c :: rest => (c.both (all rest)).map fun (a, as) => a :: as

/-- A further check of what was accepted. -/
def andThen {α β : Type} : Checked α → (α → Checked β) → Checked β
  | accepted a, f => f a
  | rejected cs, _ => rejected cs

/-- Puts a step in front of the places of complaints. -/
def within {α : Type} (step : PlaceStep) : Checked α → Checked α
  | accepted a => accepted a
  | rejected cs => rejected (cs.map fun c => { c with place := step :: c.place })

/-- One complaint about the whole value. -/
def reject {α : Type} (cause : Cause) : Checked α := rejected [⟨[], cause⟩]

instance : Functor Checked := ⟨fun f c => c.map f, fun a c => c.map fun _ => a⟩

instance : Pure Checked := ⟨accepted⟩

instance : Seq Checked := ⟨fun f c => (f.both (c ())).map fun (g, a) => g a⟩

/-- What was accepted. -/
def toOption {α : Type} : Checked α → Option α
  | accepted a => some a
  | rejected _ => none

end Checked

/-- The members of an object. -/
abbrev Members := List (Scalar × Value)

/-- A member that has to be there. -/
def required {α : Type} (ms : Members) (name : String) (check : Check α) : Checked α :=
  match Value.memberOf? ms (.text name) with
  | some v => (check v).within (.member name)
  | none => .rejected [⟨[.member name], .missing⟩]

/-- A member that can be left out. -/
def optional {α : Type} (ms : Members) (name : String) (default : α) (check : Check α) :
    Checked α :=
  match Value.memberOf? ms (.text name) with
  | some v => (check v).within (.member name)
  | none => .accepted default

/-- An object with the members of a record of some kind. -/
def record {α : Type} (kind : String) (check : Members → Checked α) : Check α
  | .object ms => check ms
  | _ => .reject (.record kind)

/-- Refuses the members that a record does not have. -/
def closed (names : List String) (ms : Members) : Checked Unit :=
  let complaints := ms.filterMap fun (name, _) =>
    match name with
    | .text s => if names.contains s then none else some ⟨[.member s], .extra⟩
    | _ => some ⟨[.member "[key]"], .extra⟩
  if complaints.isEmpty then .accepted () else .rejected complaints

/-- Any value. -/
def anything : Check Value := .accepted

/-- The text that bytes encode. -/
def textOfBytes? (data : List UInt8) : Option String := String.fromUTF8? ⟨data.toArray⟩

/-- The text of characters that a value gives: a text itself, and bytes that encode one. -/
def wholeText? : Value → Option String
  | .text s => some s
  | .scalar (.bytes data) => textOfBytes? data
  | _ => none

/-- The text that a value gives. A text that is not all characters is one too, with stand-ins for
what is no character. -/
def textOf? : Value → Option String
  | .scalar (.broken codes) => some (String.ofList (Scalar.shownCodes codes))
  | v => wholeText? v

/-- Why a value gives no text. -/
def textCause : Value → Cause
  | .scalar (.bytes _) | .scalar (.broken _) => .unicode
  | _ => .text

/-- A text. -/
def text : Check String := fun v =>
  match textOf? v with
  | some s => .accepted s
  | none => .reject (textCause v)

/-- A text of characters that is not empty. -/
def filledText : Check String := fun v =>
  match wholeText? v with
  | some s => if s = "" then .reject .emptyText else .accepted s
  | none => .reject (textCause v)

/-- Null, or what another check accepts. -/
def nullable {α : Type} (check : Check α) : Check (Option α)
  | .null => .accepted none
  | v => (check v).map some

/-- Checks items, counting from a position. -/
def itemsFrom {α : Type} (check : Check α) : Nat → List Value → Checked (List α)
  | _, [] => .accepted []
  | i, v :: vs =>
    (((check v).within (.item i)).both (itemsFrom check (i + 1) vs)).map fun (a, as) => a :: as

/-- The items that a value gives: those of a list, the elements of a set and the parts of a
pair. -/
def itemsOf? : Value → Option (List Value)
  | .list vs => some vs
  | .set es => some (es.map .scalar)
  | .pair v w => some [v, w]
  | _ => none

/-- A list of what another check accepts. -/
def listOf {α : Type} (check : Check α) : Check (List α) := fun v =>
  match itemsOf? v with
  | some vs => itemsFrom check 0 vs
  | none => .reject .list

/-- One of some texts, with what they stand for. -/
def oneOf {α : Type} (options : List (String × α)) : Check α
  | .text s =>
    match options.lookup s with
    | some a => .accepted a
    | none => .reject (.oneOf (options.map (·.1)))
  | _ => .reject (.oneOf (options.map (·.1)))

/-- One of the names of an enumeration. -/
def enumeration {α : Type} (options : List (String × α)) : Check α := fun v =>
  match (textOf? v).bind fun s => options.lookup s with
  | some a => .accepted a
  | none => .reject (.enumeration (options.map (·.1)))

end MessageRouting.Schema
