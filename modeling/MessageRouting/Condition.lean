import MessageRouting.Schema.Coercion
import MessageRouting.Schema.Entity
import MessageRouting.Value.Literal

/-!
# Conditions

A condition looks at one field of a message, or asks an expression about the payload. Two of the
four operators need an operand; a condition with one of them and without an operand is refused by
`Condition.check`.
-/

namespace MessageRouting

open Schema

/-- The part of a message that a field condition looks at. -/
inductive Space where
  /-- The body. -/
  | payload
  /-- The headers. -/
  | header
  /-- The metadata. -/
  | metadata
deriving DecidableEq, Repr, Inhabited

/-- How a field is compared with the operand. -/
inductive Operator where
  /-- The same value. -/
  | equals
  /-- The operand's text occurs in the field's text. -/
  | contains
  /-- The operand is a pattern that occurs in the field's text. -/
  | regex
  /-- The field is there and not null. -/
  | present
deriving DecidableEq, Repr, Inhabited

/-- A condition. -/
inductive Condition where
  /-- A field of a part of the message; without a path it never holds. -/
  | field (space : Space) (path : Option String) (operator : Operator) (operand : Value)
  /-- An expression over the payload. -/
  | expression (text : String)
deriving Inhabited

namespace Space

/-- The name of a part. -/
def name : Space → String
  | payload => "payload"
  | header => "header"
  | metadata => "metadata"

end Space

namespace Operator

/-- The name of an operator. -/
def name : Operator → String
  | equals => "equals"
  | contains => "contains"
  | regex => "regex"
  | present => "exists"

/-- All operators. -/
def all : List Operator := [equals, contains, regex, present]

/-- The operator of a name. -/
def ofName? (s : String) : Option Operator := all.find? fun o => o.name = s

/-- Whether an operator needs an operand that is not null. -/
def needsOperand : Operator → Bool
  | contains | regex => true
  | equals | present => false

end Operator

namespace Condition

/-- The tag of conditions that are expressions. -/
def expressionTag : String := "jq"

/-- The tags of the variants. -/
def tags : List String :=
  [Space.payload.name, Space.header.name, Space.metadata.name, expressionTag]

/-- The tag of a condition. -/
def tag : Condition → String
  | field space .. => space.name
  | expression _ => expressionTag

/-- Whether an operator that needs an operand has one, and an expression is not empty. -/
def wellFormed : Condition → Bool
  | field _ _ operator operand => !(operator.needsOperand && operand.isNull)
  | expression text => text ≠ ""

/-- The complaint about an operator without its operand. -/
def missingOperand (operator : Operator) : String :=
  "'" ++ operator.name ++ "' condition requires a value"

/-- The operand rule of a condition. -/
def withOperand (space : Space) (path : Option String) (operator : Operator) (operand : Value) :
    Checked Condition :=
  if operator.needsOperand && operand.isNull then .reject (.rule (missingOperand operator))
  else .accepted (.field space path operator operand)

/-- The tag member of a variant; it can be left out. -/
def tagMember (ms : Members) (tag : String) : Checked Unit :=
  optional ms "type" () (oneOf [(tag, ())])

/-- A field condition from the members of an object. -/
def checkField (space : Space) (ms : Members) : Checked Condition :=
  ((optional ms "field" none (nullable text)).both
    ((optional ms "operator" .equals (enumeration (Operator.all.map fun o => (o.name, o)))).both
      ((optional ms "value" .null anything).both (tagMember ms space.name)))).andThen
    fun (path, operator, operand, _) => withOperand space path operator operand

/-- An expression from the members of an object. -/
def checkExpression (ms : Members) : Checked Condition :=
  ((tagMember ms expressionTag).both (required ms "jq_expression" filledText)).map
    fun (_, text) => .expression text

/-- A condition of the variant with a tag, from the members of an object. -/
def checkVariant? (tag : String) : Option (Members → Checked Condition) :=
  if tag = expressionTag then some checkExpression
  else ([Space.payload, .header, .metadata].find? fun s => s.name = tag).map checkField

variable [Interpreter]

/-- A tag as complaints show it. -/
def shownTag (v : Value) : String :=
  match v.plainText with
  | .ok s => s
  | .error _ => "<unprintable " ++ v.kind ++ " object>"

/-- A condition: an object whose `type` tells the variant. -/
def check : Check Condition
  | .object ms =>
    match Value.memberOf? ms (.text "type") with
    | none => .reject .noVariant
    | some t =>
      let unknown : Checked Condition := .reject (.unknownVariant (shownTag t) tags)
      match t with
      | .text tag =>
        match checkVariant? tag with
        | some variant => (variant ms).within (.member tag)
        | none => unknown
      | _ => unknown
  | _ => .reject .variantObject

/-- The fields of a condition, in the order in which it is stored. -/
def fields : Condition → List (String × Value)
  | field space path operator operand =>
    [("field", Value.textOrNull path), ("operator", .text operator.name), ("value", operand),
      ("type", .text space.name)]
  | expression text => [("type", .text expressionTag), ("jq_expression", .text text)]

/-- The name of the kind of records of a variant. -/
def kindOf (tag : String) : String :=
  if tag = expressionTag then "JQCondition" else tag.capitalize ++ "Condition"

/-- A condition as a record. -/
def entity (c : Condition) : Entity := ⟨kindOf c.tag, true, c.fields⟩

/-- A condition as a value. -/
def toValue (c : Condition) : Value := c.entity.toValue

end Condition

end MessageRouting
