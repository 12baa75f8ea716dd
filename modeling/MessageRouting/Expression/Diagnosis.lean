import MessageRouting.Text.Alphanumeric
import MessageRouting.Text.Blank
import MessageRouting.Text.Lowercase
import MessageRouting.Text.Substring

/-!
# Diagnoses

The error text of an expression evaluator carries marks of its own: a last line that counts compile
errors, and the words `jq: error` anywhere. `Diagnosis.clean` leaves them out, and
`Diagnosis.suggestions` says what may help against an error.
-/

namespace MessageRouting.Expression.Diagnosis

/-- The text after a word in any case, if the word stands in front. -/
def after? : List Char → List Char → Option (List Char)
  | [], cs => some cs
  | w :: ws, c :: cs => if c.toLower = w then after? ws cs else none
  | _ :: _, [] => none

/-- Drops the words `jq: error` in any case, with the colon after them. -/
def withoutMarks : Nat → List Char → List Char
  | _, [] => []
  | 0, cs => cs
  | fuel + 1, c :: cs =>
    match after? "jq: error".toList (c :: cs) with
    | some (':' :: rest) => withoutMarks fuel rest
    | some rest => withoutMarks fuel rest
    | none => c :: withoutMarks fuel cs

/-- Whether a text is nothing but the count of compile errors. -/
def isErrorCount (cs : List Char) : Bool :=
  match after? "jq: ".toList cs with
  | none => false
  | some rest =>
    let afterDigits := rest.dropWhile Text.isDecimalDigit
    afterDigits.length < rest.length &&
      match after? " compile error".toList afterDigits with
      | none => false
      | some (c :: rest) =>
        (c.toLower = 's' || c = 'ſ' || Text.isBlank c) && rest.all Text.isBlank
      | some [] => true

/-- Drops the count of compile errors at the end, with the line break before it. -/
def withoutCount : List Char → List Char
  | [] => []
  | c :: cs =>
    if isErrorCount (c :: cs) || c = '\n' && isErrorCount cs then [] else c :: withoutCount cs

/-- An error text without marks, trimmed. -/
def clean (message : List Char) : List Char :=
  let cs := withoutCount message
  Text.trim (withoutMarks (cs.length + 1) cs)

/-- An error text without marks, trimmed. -/
def cleanText (message : String) : String := String.ofList (clean message.toList)

/-- An error text without marks. One that is empty from the start is replaced by the name of the
kind of the error. -/
def describe (kind message : String) : String := cleanText (if message = "" then kind else message)

/-- Whether a word occurs in a text. -/
def mentions (cs : List Char) (word : String) : Bool := Text.occurs word.toList cs

/-- Words that an error may mention, and what may help when it mentions one of them. -/
def hints : List (List String × List String) := [
  (["undefined", "null"],
    ["Check if all field paths exist in your input data",
      "Use the // operator for default values: .field // \"default\""]),
  (["syntax", "parse", "compile"],
    ["Verify JQ syntax - common issues: missing pipes |, parentheses, or brackets",
      "Check for unmatched quotes or brackets"]),
  (["cannot iterate"],
    ["Make sure you are iterating over an array or object", "Use [] to iterate: .items[]"]),
  (["cannot index"], ["Check the type of the value at this path before indexing it"]),
  (["exceeded"], ["Simplify the expression or avoid unbounded generators"])]

/-- What may help against an error. -/
def suggestions (message : String) : List String :=
  let cs := Text.lower message.toList
  hints.flatMap fun (words, advice) => if words.any (mentions cs) then advice else []

end MessageRouting.Expression.Diagnosis
