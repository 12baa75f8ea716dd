import MessageRouting.Text.Blank

/-!
# Environment files

An environment file gives a variable a line: a name, an equals sign and a value, which can be quoted
and then go on over several lines. A name without an equals sign has no value. In values
`${NAME}` and `${NAME:-default}` stand for variables that are already known. A malformed line is
left out.
-/

namespace MessageRouting.EnvFile

/-- The variables that a process was started with. -/
abbrev Environment := List (String × String)

/-- Variables of a file; some have no value. -/
abbrev Bindings := List (String × Option String)

/-- Sets a variable; one that is there keeps its place. -/
def put (bs : Bindings) (name : String) (value : Option String) : Bindings :=
  if bs.any fun b => b.1 = name then bs.map fun b => if b.1 = name then (name, value) else b
  else bs ++ [(name, value)]

/-! ## Lines -/

/-- Whether a character ends a line. -/
def isBreak (c : Char) : Bool := c = '\r' || c = '\n'

/-- Whether a character is a blank inside a line. -/
def isGap (c : Char) : Bool := Text.isBlank c && !isBreak c

/-- Drops blanks inside a line. -/
def skipGap (cs : List Char) : List Char := cs.dropWhile isGap

/-- What follows the first line of a text. -/
def nextLine (cs : List Char) : List Char :=
  match cs.dropWhile fun c => !isBreak c with
  | [] => []
  | _ :: rest => rest

/-- What follows the word `export` and a blank; without them all. -/
def afterExport (cs : List Char) : List Char :=
  match cs with
  | 'e' :: 'x' :: 'p' :: 'o' :: 'r' :: 't' :: c :: rest =>
    if isGap c then skipGap rest else cs
  | cs => cs

/-- A part read and the text after it, or the text at which the line is malformed. -/
abbrev Result (α : Type) := Except (List Char) (α × List Char)

/-- The name of a variable; none in front of a comment. -/
def name (cs : List Char) : Result (Option (List Char)) :=
  match cs with
  | '#' :: _ => .ok (none, cs)
  | '\'' :: rest =>
    match rest.takeWhile (· ≠ '\''), rest.dropWhile (· ≠ '\'') with
    | c :: s, _ :: after => .ok (some (c :: s), after)
    | _, _ => .error cs
  | cs =>
    let isPart (c : Char) : Bool := c ≠ '=' && c ≠ '#' && !Text.isBlank c
    match cs.takeWhile isPart with
    | [] => .error cs
    | s => .ok (some s, cs.dropWhile isPart)

/-! ## Values -/

/-- The text up to a quote that no backslash stands before, and what follows it. If there is none,
the last quote with a backslash ends the text. -/
def untilQuote (quote : Char) : List Char → Option (List Char × List Char)
  | [] => none
  | '\\' :: c :: rest =>
    if c = quote then
      match untilQuote quote rest with
      | some (s, after) => some ('\\' :: c :: s, after)
      | none => some (['\\'], rest)
    else (untilQuote quote (c :: rest)).map fun (s, after) => ('\\' :: s, after)
  | c :: rest =>
    if c = quote then some ([], rest)
    else (untilQuote quote rest).map fun (s, after) => (c :: s, after)

/-- The characters that escapes in double quotes stand for. -/
def escapes : List (Char × Char) := [
  ('\\', '\\'), ('\'', '\''), ('"', '"'), ('a', '\x07'), ('b', '\x08'), ('f', '\x0c'),
  ('n', '\n'), ('r', '\r'), ('t', '\t'), ('v', '\x0b')]

/-- The escapes that are read in single quotes. -/
def plainEscapes : List (Char × Char) := escapes.take 2

/-- Replaces escapes; a backslash before anything else stays. -/
def unescape (known : List (Char × Char)) : List Char → List Char
  | '\\' :: c :: rest =>
    match known.lookup c with
    | some d => d :: unescape known rest
    | none => '\\' :: unescape known (c :: rest)
  | c :: rest => c :: unescape known rest
  | [] => []

/-- Drops a comment: blanks, a number sign and all that follows. -/
def withoutComment : List Char → List Char
  | [] => []
  | c :: rest =>
    if Text.isBlank c && (rest.dropWhile Text.isBlank).head? = some '#' then []
    else c :: withoutComment rest

/-- Drops blanks at the end. -/
def trimEnd (cs : List Char) : List Char := (cs.reverse.dropWhile Text.isBlank).reverse

/-- A value. -/
def value (cs : List Char) : Result (List Char) :=
  match cs with
  | '\'' :: rest =>
    match untilQuote '\'' rest with
    | some (s, after) => .ok (unescape plainEscapes s, after)
    | none => .error cs
  | '"' :: rest =>
    match untilQuote '"' rest with
    | some (s, after) => .ok (unescape escapes s, after)
    | none => .error cs
  | cs =>
    .ok (trimEnd (withoutComment (cs.takeWhile fun c => !isBreak c)),
      cs.dropWhile fun c => !isBreak c)

/-- What stands after an equals sign. -/
def assigned (cs : List Char) : Result (Option (List Char)) :=
  match skipGap cs with
  | '=' :: rest => (value (skipGap rest)).map fun (v, after) => (some v, after)
  | rest => .ok (none, rest)

/-- What follows the end of a line, with a comment in front. -/
def endOfLine (cs : List Char) : Except (List Char) (List Char) :=
  let cs := match skipGap cs with
    | '#' :: rest => rest.dropWhile fun c => !isBreak c
    | _ => cs
  match skipGap cs with
  | [] => .ok []
  | '\r' :: '\n' :: rest => .ok rest
  | c :: rest => if isBreak c then .ok rest else .error cs

/-- The variable of a line, and the text after the line. -/
def binding (cs : List Char) : Result (Option (List Char × Option (List Char))) :=
  match name (afterExport cs) with
  | .error e => .error e
  | .ok (n, rest) =>
    match assigned rest with
    | .error e => .error e
    | .ok (v, rest) => (endOfLine rest).map fun rest => (n.map fun s => (s, v), rest)

/-- The variables of a text, in their order. -/
def bindings : Nat → List Char → List (List Char × Option (List Char))
  | 0, _ => []
  | fuel + 1, cs =>
    match cs.dropWhile Text.isBlank with
    | [] => []
    | cs =>
      match binding cs with
      | .error rest => bindings fuel (nextLine rest)
      | .ok (some b, rest) => b :: bindings fuel rest
      | .ok (none, rest) => bindings fuel rest

/-! ## References -/

/-- A reference after its dollar sign and brace: a name, what stands for it if it is unknown, and
the text after it. -/
def reference? (cs : List Char) : Option (List Char × List Char × List Char) :=
  let isName (c : Char) : Bool := c ≠ '\x7d' && c ≠ ':'
  let found := cs.takeWhile isName
  match cs.dropWhile isName with
  | '\x7d' :: rest => some (found, [], rest)
  | ':' :: '-' :: rest =>
    match rest.dropWhile (· ≠ '\x7d') with
    | _ :: after => some (found, rest.takeWhile (· ≠ '\x7d'), after)
    | [] => none
  | _ => none

/-- Replaces references by what they stand for. -/
def expand (known : List Char → Option (List Char)) : Nat → List Char → List Char
  | 0, cs => cs
  | _, [] => []
  | fuel + 1, '$' :: '\x7b' :: rest =>
    match reference? rest with
    | some (n, default, after) => (known n).getD default ++ expand known fuel after
    | none => '$' :: expand known fuel ('\x7b' :: rest)
  | fuel + 1, c :: rest => c :: expand known fuel rest

/-- What a name stands for, given the variables that a file has set so far. One without a value is
empty. -/
def meaning (env : Environment) (set : Bindings) (n : List Char) : Option (List Char) :=
  let s := String.ofList n
  match set.lookup s with
  | some v => some ((v.getD "").toList)
  | none => (env.lookup s).map String.toList

/-- The variables of a file, in a process with some variables of its own. -/
def read (env : Environment) (cs : List Char) : Bindings :=
  (bindings (cs.length + 1) cs).foldl (fun set (n, v) =>
    put set (String.ofList n)
      (v.map fun s => String.ofList (expand (meaning env set) (s.length + 1) s))) []

end MessageRouting.EnvFile
