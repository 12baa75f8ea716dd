import MessageRouting.Query
import MessageRouting.Query.Token

/-!
# Reading queries

`Query.read` reads a whole text as a query. Operators bind, from loosely to tightly: the pipe, the
comma, `//`, `or`, `and`, comparisons, sums, products. A text can be empty, it can break the
grammar, or it can use names that mean nothing; `Defect.message` says which, and `Defect.details`
adds the lines of the text where it happens.
-/

namespace MessageRouting

namespace Query

/-- Why a text is no query. -/
inductive Defect where
  /-- There is nothing to evaluate. -/
  | absent
  /-- The grammar is broken in this line. -/
  | malformed (line : String)
  /-- A name means nothing; then all such names follow, with their lines. -/
  | undefined (name : String) (lines : List String)
deriving DecidableEq, Repr, Inhabited

namespace Defect

/-- The wording of a defect. -/
def message : Defect → String
  | absent => "Top-level program not given (try \".\")"
  | malformed _ => "syntax error"
  | undefined name _ => name ++ " is not defined"

/-- The wording, and the lines in which the defect shows. -/
def details : Defect → String
  | absent => absent.message
  | malformed line => "syntax error\n" ++ line
  | undefined name lines => String.intercalate "\n" ((undefined name lines).message :: lines)

end Defect

/-! ## Undefined names -/

/-- Names that mean nothing: those that the body itself uses, and those in its closed parts, which
are reported after them. -/
structure Unbound where
  /-- The names of the body itself. -/
  own : List Reference
  /-- The names of its closed parts. -/
  inner : List Reference

namespace Unbound

/-- No names. -/
def nothing : Unbound := ⟨[], []⟩

/-- The names of one part and then those of another. -/
def append (a b : Unbound) : Unbound := ⟨a.own ++ b.own, a.inner ++ b.inner⟩

/-- The names of a closed part. -/
def closed (a : Unbound) : Unbound := ⟨[], a.own ++ a.inner⟩

end Unbound

end Query

open Query in
/-- The names in a query that mean nothing. -/
def Query.unbound : Query → Unbound
  | identity | constant _ | call _ => .nothing
  | index subject key _ => key.unbound.append subject.unbound
  | each subject _ => subject.unbound
  | pipe a b | both a b | conjunction a b | disjunction a b | alternative a b | operation _ a b =>
    a.unbound.append b.unbound
  | branch a b c => (a.unbound.append b.unbound).append c.unbound
  | withMember a b c => (a.unbound.append b.unbound).append c.unbound
  | attempt a | collect a | negative a | startsWith a => a.unbound
  | map a | select a | raise a | iterate a | firstOf a | lastOf a => a.unbound.closed
  | unknown r => ⟨[r], []⟩

namespace Query

namespace Reader

/-! ## Grammar -/

/-- A part read and the tokens after it, or the tokens at which the grammar is broken. -/
abbrev Result (α : Type) := Except (List Placed) (α × List Placed)

/-- How an operator groups with itself. -/
inductive Grouping where
  /-- From the left. -/
  | left
  /-- From the right. -/
  | right
  /-- Not at all. -/
  | apart
deriving DecidableEq, Repr

/-- An operator of the grammar. -/
structure Joint where
  /-- How tightly it binds. -/
  strength : Nat
  /-- How it groups. -/
  grouping : Grouping
  /-- What it builds. -/
  build : Query → Query → Query

/-- The operators with a mark or a word. -/
def operators : List (Token × Joint) := [
  (.mark "|", ⟨0, .right, .pipe⟩), (.mark ",", ⟨1, .left, .both⟩),
  (.mark "//", ⟨2, .right, .alternative⟩), (.word "or", ⟨3, .left, .disjunction⟩),
  (.word "and", ⟨4, .left, .conjunction⟩), (.mark "==", ⟨5, .apart, .operation .equal⟩),
  (.mark "!=", ⟨5, .apart, .operation .unequal⟩), (.mark "<", ⟨5, .apart, .operation .less⟩),
  (.mark "<=", ⟨5, .apart, .operation .atMost⟩), (.mark ">", ⟨5, .apart, .operation .greater⟩),
  (.mark ">=", ⟨5, .apart, .operation .atLeast⟩), (.mark "+", ⟨6, .left, .operation .add⟩),
  (.mark "-", ⟨6, .left, .operation .subtract⟩), (.mark "*", ⟨7, .left, .operation .multiply⟩),
  (.mark "/", ⟨7, .left, .operation .divide⟩)]

/-- The operator that a token stands for. -/
def operator? (ts : List Placed) : Option (Joint × List Placed) :=
  match ts with
  | t :: rest => (operators.lookup t.token).map (·, rest)
  | [] => none

/-- How tightly a sign in front binds its operand. -/
def signStrength : Nat := 7

/-- The least strength of an operator inside a member, which a comma ends. -/
def memberStrength : Nat := 2

/-- The first token. -/
def head? (ts : List Placed) : Option Token := ts.head?.map (·.token)

/-- Wants a token. -/
def expect (t : Token) (ts : List Placed) : Except (List Placed) (List Placed) :=
  if head? ts = some t then .ok ts.tail else .error ts

/-- A text as a query. -/
def literal (s : String) : Query := .constant (.text s)

/-- A function by its name and arguments. -/
def function (line : Nat) (name : String) (args : List Query) : Query :=
  match name, args with
  | "null", [] => .constant .null
  | "true", [] => .constant (.bool true)
  | "false", [] => .constant (.bool false)
  | "map", [f] => .map f
  | "select", [f] => .select f
  | "startswith", [f] => .startsWith f
  | "error", [f] => .raise f
  | "repeat", [f] => .iterate f
  | "first", [f] => .firstOf f
  | "last", [f] => .lastOf f
  | name, args =>
    match if args.isEmpty then Function.named.lookup name else none with
    | some f => .call f
    | none => .unknown ⟨name ++ "/" ++ toString args.length, line⟩

/-- A name after a dollar sign, of which none means anything. -/
def variableQuery (line : Nat) (name : String) : Query := .unknown ⟨"$" ++ name, line⟩

/-- A lenient form of a query. -/
def lenient : Query → Query
  | .index subject key false => .index subject key true
  | .each subject false => .each subject true
  | q => .attempt q

mutual

/-- Operands with operators that bind at least as tightly as `least` between them. -/
def expression : Nat → Nat → List Placed → Result Query
  | 0, _, ts => .error ts
  | fuel + 1, least, ts =>
    match operand fuel ts with
    | .error e => .error e
    | .ok (q, ts) => operations fuel least q ts

/-- What follows the left operand `q`. -/
def operations : Nat → Nat → Query → List Placed → Result Query
  | 0, _, _, ts => .error ts
  | fuel + 1, least, q, ts =>
    match operator? ts with
    | none => .ok (q, ts)
    | some (op, rest) =>
      if op.strength < least then .ok (q, ts)
      else
        let strength := if op.grouping = .right then op.strength else op.strength + 1
        match expression fuel strength rest with
        | .error e => .error e
        | .ok (r, after) =>
          match op.grouping, operator? after with
          | .apart, some (other, _) =>
            if other.strength = op.strength then .error after
            else operations fuel least (op.build q r) after
          | _, _ => operations fuel least (op.build q r) after

/-- An operand: a sign and an operand, or a term. -/
def operand : Nat → List Placed → Result Query
  | 0, ts => .error ts
  | fuel + 1, ts =>
    match ts with
    | ⟨.mark "-", _⟩ :: rest =>
      match expression fuel signStrength rest with
      | .error e => .error e
      | .ok (q, rest) => .ok (.negative q, rest)
    | ts =>
      match term fuel ts with
      | .error e => .error e
      | .ok (q, rest) => suffixes fuel q rest

/-- A term without what follows it. -/
def term : Nat → List Placed → Result Query
  | 0, ts => .error ts
  | fuel + 1, ts =>
    match ts with
    | ⟨.number x, _⟩ :: rest => .ok (.constant (.number x), rest)
    | ⟨.text s, _⟩ :: rest => .ok (literal s, rest)
    | ⟨.field name, _⟩ :: rest => .ok (.index .identity (literal name) false, rest)
    | ⟨.binding name, line⟩ :: rest => .ok (variableQuery line name, rest)
    | ⟨.mark ".", _⟩ :: ⟨.text s, _⟩ :: rest => .ok (.index .identity (literal s) false, rest)
    | ⟨.mark ".", _⟩ :: rest => .ok (.identity, rest)
    | ⟨.mark "(", _⟩ :: rest =>
      match expression fuel 0 rest with
      | .error e => .error e
      | .ok (q, rest) => (expect (.mark ")") rest).map (q, ·)
    | ⟨.mark "[", _⟩ :: ⟨.mark "]", _⟩ :: rest => .ok (.constant (.array []), rest)
    | ⟨.mark "[", _⟩ :: rest =>
      match expression fuel 0 rest with
      | .error e => .error e
      | .ok (q, rest) => (expect (.mark "]") rest).map (.collect q, ·)
    | ⟨.mark "\x7b", _⟩ :: ⟨.mark "\x7d", _⟩ :: rest => .ok (.constant (.object []), rest)
    | ⟨.mark "\x7b", _⟩ :: rest => members fuel (.constant (.object [])) rest
    | ⟨.word "if", _⟩ :: rest => branches fuel rest
    | ⟨.name name, line⟩ :: ⟨.mark "(", _⟩ :: rest =>
      match arguments fuel rest with
      | .error e => .error e
      | .ok (args, rest) => .ok (function line name args, rest)
    | ⟨.name name, line⟩ :: rest => .ok (function line name [], rest)
    | ts => .error ts

/-- Paths and question marks after a term. -/
def suffixes : Nat → Query → List Placed → Result Query
  | 0, _, ts => .error ts
  | fuel + 1, q, ts =>
    match ts with
    | ⟨.field name, _⟩ :: rest => suffixes fuel (.index q (literal name) false) rest
    | ⟨.mark ".", _⟩ :: ⟨.text s, _⟩ :: rest => suffixes fuel (.index q (literal s) false) rest
    | ⟨.mark ".", _⟩ :: ⟨.mark "[", line⟩ :: rest =>
      suffixes fuel q (⟨.mark "[", line⟩ :: rest)
    | ⟨.mark "[", _⟩ :: ⟨.mark "]", _⟩ :: rest => suffixes fuel (.each q false) rest
    | ⟨.mark "[", _⟩ :: rest =>
      match expression fuel 0 rest with
      | .error e => .error e
      | .ok (key, rest) =>
        match expect (.mark "]") rest with
        | .error e => .error e
        | .ok rest => suffixes fuel (.index q key false) rest
    | ⟨.mark "?", _⟩ :: rest => suffixes fuel (lenient q) rest
    | ts => .ok (q, ts)

/-- What stands between `if` and `end`. -/
def branches : Nat → List Placed → Result Query
  | 0, ts => .error ts
  | fuel + 1, ts =>
    match expression fuel 0 ts with
    | .error e => .error e
    | .ok (test, rest) =>
      match expect (.word "then") rest with
      | .error e => .error e
      | .ok rest =>
        match expression fuel 0 rest with
        | .error e => .error e
        | .ok (yes, rest) =>
          match rest with
          | ⟨.word "elif", _⟩ :: rest =>
            match branches fuel rest with
            | .error e => .error e
            | .ok (no, rest) => .ok (.branch test yes no, rest)
          | ⟨.word "else", _⟩ :: rest =>
            match expression fuel 0 rest with
            | .error e => .error e
            | .ok (no, rest) => (expect (.word "end") rest).map (.branch test yes no, ·)
          | rest => (expect (.word "end") rest).map (.branch test yes .identity, ·)

/-- Arguments up to the closing parenthesis. -/
def arguments : Nat → List Placed → Result (List Query)
  | 0, ts => .error ts
  | fuel + 1, ts =>
    match expression fuel 0 ts with
    | .error e => .error e
    | .ok (q, rest) =>
      match rest with
      | ⟨.mark ";", _⟩ :: rest =>
        match arguments fuel rest with
        | .error e => .error e
        | .ok (qs, rest) => .ok (q :: qs, rest)
      | rest => (expect (.mark ")") rest).map ([q], ·)

/-- A member name, and the value that it has if none is given. -/
def memberName : Nat → List Placed → Result (Query × Option Query)
  | 0, ts => .error ts
  | fuel + 1, ts =>
    let shorthand (s : String) : Query × Option Query :=
      (literal s, some (.index .identity (literal s) false))
    match ts with
    | ⟨.name s, _⟩ :: rest | ⟨.word s, _⟩ :: rest | ⟨.text s, _⟩ :: rest => .ok (shorthand s, rest)
    | ⟨.binding s, line⟩ :: rest =>
      .ok ((literal s, some (variableQuery line s)), rest)
    | ⟨.mark "(", _⟩ :: rest =>
      match expression fuel 0 rest with
      | .error e => .error e
      | .ok (q, rest) => (expect (.mark ")") rest).map ((q, none), ·)
    | ts => .error ts

/-- Members up to the closing brace, after those of `object`. -/
def members : Nat → Query → List Placed → Result Query
  | 0, _, ts => .error ts
  | fuel + 1, object, ts =>
    match memberName fuel ts with
    | .error e => .error e
    | .ok ((key, short), rest) =>
      let value : Result Query := match rest, short with
        | ⟨.mark ":", _⟩ :: rest, _ => memberValue fuel rest
        | rest, some q => .ok (q, rest)
        | rest, none => .error rest
      match value with
      | .error e => .error e
      | .ok (v, rest) =>
        let object := Query.withMember object key v
        match rest with
        | ⟨.mark ",", _⟩ :: rest => members fuel object rest
        | rest => (expect (.mark "\x7d") rest).map (object, ·)

/-- The value of a member, which may be a pipe but holds no comma. -/
def memberValue : Nat → List Placed → Result Query
  | 0, ts => .error ts
  | fuel + 1, ts =>
    match expression fuel memberStrength ts with
    | .error e => .error e
    | .ok (q, ⟨.mark "|", _⟩ :: rest) =>
      match memberValue fuel rest with
      | .error e => .error e
      | .ok (r, rest) => .ok (.pipe q r, rest)
    | .ok found => .ok found

end

/-- The lines of a text. -/
def linesOf (cs : List Char) : List String := (String.ofList cs).splitOn "\n"

/-- A line of a text; past the end it is the last one. -/
def lineOf (cs : List Char) (line : Nat) : String :=
  let ls := linesOf cs
  (ls[min line (ls.length - 1)]?).getD ""

end Reader

/-- Reads a whole text as a query. -/
def read (cs : List Char) : Except Defect Query :=
  match Token.scan cs with
  | [] => .error .absent
  | ts =>
    let malformed (rest : List Placed) : Except Defect Query :=
      .error (.malformed (Reader.lineOf cs ((rest.head?.map (·.line)).getD cs.length)))
    match Reader.expression (5 * ts.length + 5) 0 ts with
    | .error rest => malformed rest
    | .ok (q, []) =>
      let u := q.unbound
      match u.own ++ u.inner with
      | [] => .ok q
      | r :: rs => .error (.undefined r.label ((r :: rs).map fun r => Reader.lineOf cs r.line))
    | .ok (_, rest) => malformed rest

end Query

end MessageRouting
