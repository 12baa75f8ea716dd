import MessageRouting.Condition.Evaluation
import MessageRouting.Schema.Coercion
import MessageRouting.Value.Equality

/-!
# Attributes that nothing has checked

An attribute of a draft can hold any value, or an object of a kind that is no value. Of such a
`Foreign` object nothing is known but what it answers to the few things that are done with an
attribute, and each of these can fail. `Attribute` answers the same questions for both.
-/

namespace MessageRouting

open Expression

/-- An object of a kind that is no value, by its answers to what is done with an attribute. -/
structure Foreign where
  /-- What tells it from other objects. -/
  identity : Nat
  /-- The name of its kind. -/
  kind : String
  /-- Its text where it is written into a message or into the log. -/
  plainText : Except Fault String
  /-- Whether it counts as given. -/
  isFilled : Except Fault Bool
  /-- Whether it is like a value, or like another object. -/
  ties : Value ⊕ Nat → Except Fault Bool
  /-- Whether it comes before a value, or before another object. -/
  before : Value ⊕ Nat → Except Fault Bool
  /-- Whether a value comes before it. -/
  after : Value → Except Fault Bool
  /-- Whether it lies between two integers. -/
  isWithin : Int → Int → Except Fault Bool
  /-- Whether it can be looked up. -/
  hashed : Except Fault Unit
  /-- How long it is. -/
  length : Except Fault Nat
  /-- The text that a record takes it for, if the record wants a text or nothing. -/
  recorded : Except Fault (Option String)
  /-- What it names as a path in a part of a message. -/
  locate : Message → Space → Except Fault (Option Value)
  /-- Whether a field equals it as an operand. -/
  equals : Value → Except Fault Bool
  /-- The text in which it is looked for as an operand. -/
  asText : Except Fault (List Char)

/-- What an attribute holds. -/
inductive Attribute where
  /-- A value. -/
  | value (v : Value)
  /-- Anything else. -/
  | foreign (o : Foreign)

/-- What an attempt to read an attribute gives: a fault, nothing if there is no such attribute, or
what the attribute holds. -/
abbrev Lookup := Except Fault (Option Attribute)

/-- What evaluates the expressions of drafts, which can be anything. -/
structure DraftEvaluator where
  /-- Evaluates an expression on an input. -/
  evaluate : Attribute → Value → Logged Outcome
  /-- Checks an expression. -/
  validate : Attribute → Logged Verdict

/-- An evaluator of the expressions of drafts in the course of time. -/
abbrev DraftCourse := Nat → DraftEvaluator

namespace DraftCourse

/-- An evaluator that stays as it is. -/
def constant (ev : DraftEvaluator) : DraftCourse := fun _ => ev

/-- The course from a moment on. -/
def after (c : DraftCourse) (moment : Nat) : DraftCourse := fun n => c (moment + n)

end DraftCourse

/-- An evaluator of expressions that refuses what is no value. -/
def Expression.Evaluator.forDrafts (ev : Evaluator) (refusal : Foreign → Fault) :
    DraftEvaluator where
  evaluate
    | .value e, input => ev.evaluate e input
    | .foreign o, _ => ⟨.raised (refusal o), []⟩
  validate
    | .value e => ev.validate e
    | .foreign o => ⟨.raised (refusal o), []⟩

/-- A course of such evaluators. -/
def Expression.Course.forDrafts (evs : Course) (refusal : Foreign → Fault) : DraftCourse :=
  fun n => (evs n).forDrafts refusal

/-- The parts of code points between their dots. -/
def Path.codeSegments (codes : List Nat) : List (List Nat) :=
  codes.foldr (fun code segments =>
    match segments with
    | [] => [[code]]
    | s :: rest => if code = '.'.toNat then [] :: s :: rest else (code :: s) :: rest) [[]]

/-- The value at a dotted path of code points. -/
def Value.lookupCodes? (v : Value) (codes : List Nat) : Option Value :=
  (Path.codeSegments codes).foldlM (fun v name =>
    match v with
    | .object ms => memberOf? ms (Scalar.ofCodes name)
    | _ => none) v

/-- The kind of the first part of a value that cannot be looked up. -/
def Value.unhashable? : Value → Option String
  | .scalar _ => none
  | .pair v w => v.unhashable? <|> w.unhashable?
  | v => some v.kind

namespace Attribute

/-- An attribute that holds nothing. -/
abbrev null : Attribute := .value .null

/-- A text as an attribute. -/
abbrev text (s : String) : Attribute := .value (.text s)

/-- The name of the kind of what an attribute holds. -/
def kind : Attribute → String
  | value v => v.kind
  | foreign o => o.kind

/-- Whether an attribute holds nothing. -/
def isNull : Attribute → Bool
  | value v => v.isNull
  | foreign _ => false

/-- Whether an attribute counts as given. -/
def isFilled : Attribute → Except Fault Bool
  | value v => .ok v.isFilled
  | foreign o => o.isFilled

/-- Whether an attribute is a text. -/
def isText (s : String) : Attribute → Except Fault Bool
  | value (.text t) => .ok (t = s)
  | value _ => .ok false
  | foreign o => o.ties (.inl (.text s))

/-- The first of some names, with what they stand for, that an attribute is. -/
def named? {α : Type} (a : Attribute) : List (String × α) → Except Fault (Option α)
  | [] => .ok none
  | (name, x) :: rest => do
    if ← a.isText name then return some x else a.named? rest

/-- The text or nothing that a record takes an attribute for. -/
def recorded (what : String) : Attribute → Except Fault (Option String)
  | value v =>
    match Schema.nullable Schema.text v with
    | .accepted s => .ok s
    | .rejected _ => .error (.unfit what)
  | foreign o => o.recorded

/-- Looks an attribute up. -/
def hashed : Attribute → Except Fault Unit
  | value v =>
    match v.unhashable? with
    | some kind => .error (.unhashable kind)
    | none => .ok ()
  | foreign o => o.hashed

/-- How long an attribute is. -/
def length : Attribute → Except Fault Nat
  | value (.text s) => .ok s.length
  | value (.scalar (.bytes data)) => .ok data.length
  | value (.scalar (.broken codes)) => .ok codes.length
  | value (.scalar s) => .error (.noLength s.kind)
  | value (.list vs) => .ok vs.length
  | value (.object ms) => .ok ms.length
  | value (.set es) => .ok es.length
  | value (.pair ..) => .ok 2
  | foreign o => o.length

/-- What an attribute names as a path in a part of a message. -/
def locate (m : Message) (space : Space) : Attribute → Except Fault (Option Value)
  | value (.text p) => .ok (Condition.locate m p space)
  | value v =>
    match space with
    | .header =>
      match v.unhashable? with
      | some kind => .error (.unhashable kind)
      | none => .ok none
    | .payload => below m.payload v
    | .metadata => below (.object m.metadata) v
  | foreign o => o.locate m space
where
  /-- What a value that is no text names as a path. -/
  below (v : Value) : Value → Except Fault (Option Value)
    | .scalar (.broken codes) => .ok (v.lookupCodes? codes)
    | .scalar (.bytes _) => .error (.wrongKind "a bytes-like object is required, not 'str'")
    | path => .error (.noAttribute path.kind "split")

section

variable [Interpreter]

/-- The text of an attribute where it is written. -/
def plainText : Attribute → Except Fault String
  | value v => v.plainText
  | foreign o => o.plainText

/-- What the log shows of an attribute. -/
def logged : Attribute → Except Fault Value
  | value (.scalar (.broken codes)) =>
    match Interpreter.logRefusal with
    | some f => .error f
    | none => .ok (.scalar (.broken codes))
  | value v => do
    let _ ← v.plainText
    return v
  | foreign o => o.plainText.map .text

/-- Whether two attributes are alike. -/
def ties : Attribute → Attribute → Except Fault Bool
  | value v, value w => v.ties w
  | foreign o, value v | value v, foreign o => o.ties (.inl v)
  | foreign o, foreign p => o.ties (.inr p.identity)

end

end Attribute

end MessageRouting
