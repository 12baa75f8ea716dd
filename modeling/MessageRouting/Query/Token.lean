import MessageRouting.Decimal.Numeral
import MessageRouting.Json.Reader
import MessageRouting.Query.Datum

/-!
# Tokens of queries

`Token.scan` cuts the text of a query into tokens, each with the line in which it begins. Blanks
and comments stand between tokens; what begins no token becomes one that no grammar knows.
-/

namespace MessageRouting.Query

/-- A token. -/
inductive Token where
  /-- A number. -/
  | number (x : Binary64)
  /-- A text. -/
  | text (s : String)
  /-- A point and the name of a member. -/
  | field (name : String)
  /-- A name. -/
  | name (s : String)
  /-- A name after a dollar sign. -/
  | binding (s : String)
  /-- A word of the grammar. -/
  | word (s : String)
  /-- A mark. -/
  | mark (s : String)
  /-- Nothing that has a meaning. -/
  | stray
deriving DecidableEq, Repr, Inhabited

/-- A token in its place. -/
structure Placed where
  /-- The token. -/
  token : Token
  /-- The line in which it begins, counted from zero. -/
  line : Nat
deriving Repr, Inhabited

namespace Token

/-- The words of the grammar. -/
def words : List String := [
  "and", "or", "if", "then", "elif", "else", "end", "as", "def", "reduce", "foreach", "try",
  "catch", "label", "import", "include", "__loc__"]

/-- The marks; of two that fit, the longer one stands first. -/
def marks : List String := [
  "?//", "//=", "!=", "==", "//", "|=", "+=", "-=", "*=", "/=", "%=", "<=", ">=", "..", ".", "?",
  "=", ";", ",", ":", "|", "+", "-", "*", "/", "%", "$", "<", ">", "(", ")", "[", "]", "\x7b",
  "\x7d"]

/-- Whether a name can begin with a character. -/
def isNameStart (c : Char) : Bool := c.isAlpha || c = '_'

/-- Whether a name can go on with a character. -/
def isNamePart (c : Char) : Bool := c.isAlphanum || c = '_'

/-- A name and the text after it. -/
def name? (cs : List Char) : Option (String × List Char) :=
  match cs with
  | c :: _ =>
    if isNameStart c then
      some (String.ofList (cs.takeWhile isNamePart), cs.dropWhile isNamePart)
    else none
  | [] => none

/-- A number and the text after it: digits on at least one side of the point. -/
def number? (cs : List Char) : Option (Binary64 × List Char) :=
  let (whole, rest) := Decimal.span cs
  let (fraction, rest) := match rest with
    | '.' :: rest => Decimal.span rest
    | rest => ([], rest)
  if whole.isEmpty && fraction.isEmpty then none
  else
    match Decimal.exponentPart rest with
    | some (e, rest) => some ((Decimal.Numeral.mk false whole fraction e).toBinary64, rest)
    | none => some ((Decimal.Numeral.mk false whole fraction 0).toBinary64, rest)

/-- How escapes in a text are read. -/
def escapes : Json.Dialect where
  maxDepth := 0
  bareLevels := 0
  wholePairs := false
  countsSign := false

/-- The code points of a text after its opening quote, and what stands after it. -/
def text? : Nat → List Char → Option (List Nat × List Char)
  | 0, _ => none
  | _, [] => none
  | _ + 1, '"' :: rest => some ([], rest)
  | fuel + 1, '\\' :: rest =>
    match Json.Reader.escape escapes rest ('\\' :: rest) rest with
    | .ok (c, rest) => (text? fuel rest).map fun (s, rest) => (c :: s, rest)
    | .error _ => none
  | fuel + 1, c :: rest => (text? fuel rest).map fun (s, rest) => (c.toNat :: s, rest)

/-- What follows a comment. A backslash before the end of a line continues the comment. -/
def afterComment : List Char → List Char
  | [] => []
  | '\n' :: rest => '\n' :: rest
  | '\\' :: '\r' :: '\n' :: rest => afterComment rest
  | '\\' :: _ :: rest => afterComment rest
  | _ :: rest => afterComment rest

/-- The first mark that a text begins with. -/
def mark? (cs : List Char) : Option (Token × List Char) :=
  marks.findSome? fun m => (Json.Reader.after? m.toList cs).map (mark m, ·)

/-- A token that is no name of a member. -/
def other? (cs : List Char) : Option (Token × List Char) :=
  match number? cs with
  | some (x, rest) => some (number x, rest)
  | none =>
    match name? cs with
    | some (s, rest) => some (if words.contains s then word s else name s, rest)
    | none => mark? cs

/-- The token that a text begins with, and the text after it. -/
def next (cs : List Char) : Token × List Char :=
  match cs with
  | '"' :: rest =>
    match text? (rest.length + 1) rest with
    | some (s, rest) => (text (replaced s), rest)
    | none => (stray, [])
  | '.' :: rest =>
    match name? rest with
    | some (s, rest) => (field s, rest)
    | none => (other? cs).getD (stray, rest)
  | '$' :: rest =>
    match name? rest with
    | some (s, rest) => (binding s, rest)
    | none => (mark "$", rest)
  | cs => (other? cs).getD (stray, cs.tail)

/-- The tokens of a text from a line on. -/
def scanFrom : Nat → Nat → List Char → List Placed
  | 0, _, _ => []
  | _, _, [] => []
  | fuel + 1, line, c :: cs =>
    if c = '\n' then scanFrom fuel (line + 1) cs
    else if c = ' ' || c = '\t' || c = '\r' then scanFrom fuel line cs
    else
      let before := c :: cs
      let (found, rest) := if c = '#' then ([], afterComment cs)
        else
          let (t, rest) := next before
          ([⟨t, line⟩], rest)
      let passed := (before.take (before.length - rest.length)).count '\n'
      found ++ scanFrom fuel (line + passed) rest

/-- The tokens of a text. -/
def scan (cs : List Char) : List Placed := scanFrom (cs.length + 1) 0 cs

end Token

end MessageRouting.Query
