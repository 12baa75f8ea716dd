import MessageRouting.Decimal.Digits
import MessageRouting.Interpreter
import MessageRouting.Pattern.Fault
import MessageRouting.Pattern.Node
import MessageRouting.Text.Alphanumeric
import MessageRouting.Text.Blank

/-!
# Reading patterns

A pattern is read token by token, where a backslash and the character after it are one token. One
token is always read ahead, so that a backslash at the end is found as soon as the token before it
is taken. Groups stand inside each other only as deep as the interpreter reads them. `Pattern.read`
gives the tree of a pattern, or the first fault.
-/

namespace MessageRouting.Pattern

/-- A character, or a backslash with the character after it. -/
structure Token where
  /-- Where it stands. -/
  position : Nat
  /-- How it is written. -/
  written : List Char

namespace Reader

/-- The tokens of a pattern from a position on, and whether a lone backslash follows them. -/
def tokensFrom (position : Nat) : List Char → List Token × Bool
  | [] => ([], false)
  | ['\\'] => ([], true)
  | '\\' :: c :: rest =>
    let (ts, lone) := tokensFrom (position + 2) rest
    (⟨position, ['\\', c]⟩ :: ts, lone)
  | c :: rest =>
    let (ts, lone) := tokensFrom (position + 1) rest
    (⟨position, [c]⟩ :: ts, lone)

/-- What is known while a pattern is read. -/
structure Progress where
  /-- The tokens that were not taken yet. -/
  rest : List Token
  /-- Whether a lone backslash follows them. -/
  loneBackslash : Bool
  /-- The length of the pattern. -/
  size : Nat
  /-- The flags of the whole pattern. -/
  flags : Flags
  /-- Whether classes of all scripts were asked for. -/
  allScripts : Bool
  /-- The widths of the groups; none while a group is open. The whole pattern is group zero. -/
  groups : List (Option Width)
  /-- The names of groups. -/
  names : List (String × Nat)
  /-- Inside a look-behind: how many groups there were at its beginning. -/
  groupsBefore : Option Nat
  /-- The numbers of groups that conditions speak of, with their first positions, the last first. -/
  conditions : List (Nat × Nat)

/-- Reading, which can fail. -/
abbrev Reads := StateT Progress (Except Fault)

/-- The position of the next token. -/
def here : Reads Nat := do
  let s ← get
  return match s.rest with
    | t :: _ => t.position
    | [] => s.size

/-- Fails some characters before the next token. -/
def failBefore {α : Type} (cause : Cause) (offset : Nat) : Reads α := do
  throw (.at cause ((← here) - offset))

/-- Fails at the next token. -/
def fail {α : Type} (cause : Cause) : Reads α := failBefore cause 0

/-- Finds a lone backslash that comes next. -/
def checkEnd : Reads Unit := do
  let s ← get
  if s.rest.isEmpty && s.loneBackslash then throw (.at .loneBackslash (s.size - 1))

/-- The next token. -/
def peek : Reads (Option (List Char)) := do
  return (← get).rest.head?.map (·.written)

/-- Takes the next token. -/
def take : Reads (Option (List Char)) := do
  let t ← peek
  modify fun s => { s with rest := s.rest.tail }
  checkEnd
  return t

/-- Takes the next token if it is this character. -/
def accept (c : Char) : Reads Bool := do
  if (← peek) = some [c] then
    let _ ← take
    return true
  return false

/-- Takes up to `count` tokens that are characters of a kind. -/
def takeWhile (p : Char → Bool) : Nat → Reads (List Char)
  | 0 => return []
  | count + 1 => do
    match ← peek with
    | some [c] =>
      if p c then
        let _ ← take
        return c :: (← takeWhile p count)
      return []
    | _ => return []

/-- Takes tokens up to a terminator, which is taken too. `what` is what stands before it. -/
def takeUntil (terminator : Char) (what : String) : Nat → List Char → Reads (List Char)
  | 0, found => return found
  | fuel + 1, found => do
    match ← take with
    | none =>
      if found = [] then fail (.missingName what)
      failBefore (.openName (String.singleton terminator)) found.length
    | some t =>
      if t = [terminator] then
        if found = [] then failBefore (.missingName what) 1
        return found
      takeUntil terminator what fuel (found ++ t)

/-- More than the number of tokens that are left. -/
def budget : Reads Nat := do return (← get).rest.length + 1

/-! ## Escapes -/

/-- Whether a character is an octal digit. -/
def isOctal (c : Char) : Bool := '0' ≤ c && c ≤ '7'

/-- Whether a character is a hexadecimal digit. -/
def isHex (c : Char) : Bool :=
  Decimal.isDigit c || 'a' ≤ c && c ≤ 'f' || 'A' ≤ c && c ≤ 'F'

/-- The number that digits denote in a base up to 16. -/
def baseValue (base : Nat) (cs : List Char) : Nat :=
  cs.foldl (fun n c =>
    base * n + (if Decimal.isDigit c then c.toNat - 48
      else if 'a' ≤ c then c.toNat - 87 else c.toNat - 55)) 0

/-- What an escape stands for. -/
inductive Escaped where
  /-- The character of a code point. -/
  | char (code : Nat)
  /-- A class of characters. -/
  | category (kind : CharClass) (negated : Bool)
  /-- A place. -/
  | place (anchor : Anchor)
  /-- What a group matched. -/
  | group (number : Nat)

/-- The control characters that letters stand for. -/
def control? : Char → Option Nat
  | 'a' => some 7
  | 'b' => some 8
  | 'f' => some 12
  | 'n' => some 10
  | 'r' => some 13
  | 't' => some 9
  | 'v' => some 11
  | '\\' => some 92
  | _ => none

/-- The classes that letters stand for. -/
def category? : Char → Option Escaped
  | 'd' => some (.category .digit false)
  | 'D' => some (.category .digit true)
  | 's' => some (.category .space false)
  | 'S' => some (.category .space true)
  | 'w' => some (.category .word false)
  | 'W' => some (.category .word true)
  | _ => none

/-- The places that letters stand for. -/
def place? : Char → Option Escaped
  | 'A' => some (.place .textStart)
  | 'Z' => some (.place .textEnd)
  | 'b' => some (.place (.boundary false))
  | 'B' => some (.place (.boundary true))
  | _ => none

/-- Fails because of an escape that was just taken. -/
def failEscape {α : Type} (cause : String → Cause) (written : List Char) : Reads α :=
  failBefore (cause (String.ofList written)) written.length

/-- Exactly `count` hexadecimal digits after an escape. -/
def hexEscape (written : List Char) (count : Nat) : Reads Escaped := do
  let ds ← takeWhile isHex count
  let written := written ++ ds
  if ds.length ≠ count then failEscape .incompleteEscape written
  let code := baseValue 16 ds
  if 0x110000 ≤ code then failEscape .badEscape written
  return .char code

/-- The octal digits of an escape. -/
def octalEscape (written : List Char) : Reads Escaped := do
  let code := baseValue 8 written.tail
  if 0o377 < code then failEscape .octalEscape written
  return .char code

variable [Interpreter]

/-- A character by its name. -/
def namedEscape : Reads Escaped := do
  if !(← accept '\x7b') then fail .missingBrace
  let name ← takeUntil '\x7d' "character name" (← budget) []
  match Interpreter.characterNamed (String.ofList name) with
  | some c => return .char c.toNat
  | none => failBefore (.unknownCharacter (String.ofList name)) (name.length + 4)

/-- An escape that is the same inside and outside a character set. -/
def sharedEscape (written : List Char) (c : Char) : Reads Escaped := do
  match c with
  | 'x' => hexEscape written 2
  | 'u' => hexEscape written 4
  | 'U' => hexEscape written 8
  | 'N' => namedEscape
  | c =>
    if c.isAlpha || Decimal.isDigit c then failEscape .badEscape written
    return .char c.toNat

/-- An escape in a character set. -/
def setEscape (written : List Char) (c : Char) : Reads Escaped := do
  match control? c, category? c with
  | some code, _ => return .char code
  | none, some class' => return class'
  | none, none =>
    if isOctal c then octalEscape (written ++ (← takeWhile isOctal 2))
    else sharedEscape written c

/-- Whether a group exists and is closed. -/
def isClosed (s : Progress) (number : Nat) : Bool := (s.groups.getD number none).isSome

/-- Inside a look-behind only groups from before it can be referred to. -/
def checkLookbehind (number : Nat) : Reads Unit := do
  let s ← get
  if let some count := s.groupsBefore then
    if !isClosed s number then fail .openGroup
    if count ≤ number then fail .lookbehindGroup

/-- A reference to a group by its number. -/
def numberedGroup (written : List Char) : Reads Escaped := do
  let number := Decimal.value written.tail
  let s ← get
  if number < s.groups.length then
    if !isClosed s number then failBefore .openGroup written.length
    checkLookbehind number
    return .group number
  failBefore (.noGroup number) (written.length - 1)

/-- An escape of digits outside a character set: three octal digits are a character, all else a
group. -/
def digitEscape (written : List Char) (c : Char) : Reads Escaped := do
  match ← takeWhile Decimal.isDigit 1 with
  | [] => numberedGroup written
  | ds =>
    let written := written ++ ds
    if isOctal c && ds.all isOctal then
      match ← takeWhile isOctal 1 with
      | [] => numberedGroup written
      | es => octalEscape (written ++ es)
    else numberedGroup written

/-- An escape outside a character set. -/
def escape (written : List Char) (c : Char) : Reads Escaped := do
  match category? c, place? c, control? c with
  | some e, _, _ => return e
  | none, some e, _ => return e
  | none, none, some code => return .char code
  | none, none, none =>
    if c = '0' then
      return .char (baseValue 8 (written.tail ++ (← takeWhile isOctal 2)))
    else if Decimal.isDigit c then digitEscape written c
    else sharedEscape written c

/-! ## Character sets -/

/-- The character of a code point as part of a set. -/
def itemOf (code : Nat) : SetItem :=
  if (Char.ofNat code).toNat = code then .char (Char.ofNat code) else .range code code

/-- One part of a set: the code point, or the class. -/
def setPart (t : List Char) : Reads (Nat ⊕ SetItem) := do
  match t with
  | ['\\', c] =>
    match ← setEscape t c with
    | .char code => return .inl code
    | .category kind negated => return .inr (.category kind negated)
    | _ => return .inl 0
  | c :: _ => return .inl c.toNat
  | [] => return .inl 0

/-- A part as an item. -/
def partItem : Nat ⊕ SetItem → SetItem
  | .inl code => itemOf code
  | .inr item => item

/-- The items of a set, up to the closing bracket. -/
def setItems (start : Nat) : Nat → List SetItem → Reads (List SetItem)
  | 0, found => return found
  | fuel + 1, found => do
    let unterminated : Reads (List SetItem) := do
      failBefore .openSet ((← here) - start)
    match ← take with
    | none => unterminated
    | some t =>
      if t = [']'] && !found.isEmpty then return found.reverse
      let low ← setPart t
      if !(← accept '-') then setItems start fuel (partItem low :: found)
      else
        match ← take with
        | none => unterminated
        | some u =>
          if u = [']'] then return (.char '-' :: partItem low :: found).reverse
          let high ← setPart u
          let bad : Reads (List SetItem) :=
            failBefore (.badRange (String.ofList t) (String.ofList u)) (t.length + 1 + u.length)
          match low, high with
          | .inl a, .inl b => if b < a then bad else setItems start fuel (.range a b :: found)
          | _, _ => bad

/-- A character set after its opening bracket. -/
def characterSet (flags : Flags) : Reads Node := do
  let start := (← here) - 1
  let negated ← accept '^'
  return .oneOf flags negated (← setItems start (← budget) [])

/-! ## Repetitions -/

/-- A part of a sequence: a place cannot be repeated, and neither can a repetition. -/
inductive Piece where
  /-- A place. -/
  | place (node : Node)
  /-- A repetition. -/
  | repetition (node : Node)
  /-- Anything else. -/
  | other (node : Node)

/-- The node of a piece. -/
def Piece.node : Piece → Node
  | place n | repetition n | other n => n

/-- The counts from which on repetitions are too many. -/
def countLimit : Nat := 4294967295

/-- A count that is given by digits. -/
def count (ds : List Char) : Reads Nat := do
  let n := Decimal.value ds
  if countLimit ≤ n then throw .repetitionCount
  return n

/-- The counts of a repetition in braces, after the opening brace at `start`; without result if the
brace stands for itself. -/
def braces (start : Nat) : Reads (Option (Nat × Option Nat)) := do
  if (← peek) = some ['\x7d'] then return none
  let begun ← get
  let low ← takeWhile Decimal.isDigit (← budget)
  let ranged ← accept ','
  let n ← budget
  let high ← if ranged then takeWhile Decimal.isDigit n else pure low
  if !(← accept '\x7d') then
    set begun
    return none
  let least ← if low = [] then pure 0 else count low
  if high = [] then return some (least, none)
  let most ← count high
  if most < least then failBefore .countOrder ((← here) - start)
  return some (least, some most)

/-- The sign after a repetition that says how it chooses its count. -/
def greed : Reads Greed := do
  if ← accept '?' then return .lazy
  if ← accept '+' then return .possessive
  return .greedy

/-- Repeats the last piece; `start` is the position after the repetition sign. -/
def repeated (start least : Nat) (most : Option Nat) : List Piece → Reads (List Piece)
  | [] | .place _ :: _ => do failBefore .nothingToRepeat ((← here) - start + 1)
  | .repetition _ :: _ => do failBefore .repeatedRepeat ((← here) - start + 1)
  | .other body :: before => do
    return .repetition (.repetition (← greed) least most body) :: before

/-! ## Group heads -/

/-- Whether a character can begin a name. -/
def isNameStart (c : Char) : Bool := Text.isWordPart c && !Text.isDecimalDigit c

/-- Whether a text can name a group. -/
def isIdentifier : List Char → Bool
  | [] => false
  | c :: cs => isNameStart c && cs.all Text.isWordPart

/-- Refuses names that are no identifiers. -/
def checkName (name : List Char) : Reads Unit := do
  if !isIdentifier name then failBefore (.badGroupName (String.ofList name)) (name.length + 1)

/-- Opens a group. -/
def openGroup (name : Option (List Char)) : Reads Nat := do
  let s ← get
  let number := s.groups.length
  set { s with groups := s.groups ++ [none] }
  if let some cs := name then
    let text := String.ofList cs
    match s.names.lookup text with
    | some earlier => failBefore (.groupAgain text number earlier) (cs.length + 1)
    | none => modify fun s => { s with names := (text, number) :: s.names }
  return number

/-- Closes a group. -/
def closeGroup (number : Nat) (body : Node) : Reads Unit :=
  modify fun s => { s with groups := s.groups.set number (some body.width) }

/-- Whether a letter is a flag. -/
def isFlag (c : Char) : Bool := "iLmsxatu".toList.contains c

/-- Whether a character is a letter. -/
def isLetter (c : Char) : Bool := isNameStart c && c ≠ '_'

/-- Takes something that should be a flag, or one of the characters that can follow flags. -/
def takeFlag (what : String) (others : List Char) : Reads Char := do
  match ← take with
  | none => fail (.missingFlag what)
  | some t =>
    match t with
    | [c] =>
      if isFlag c || others.contains c then return c
      failBefore (if isLetter c then .unknownFlag else .missingFlag what) 1
    | t => failBefore (.missingFlag what) t.length

/-- The flags to turn on, beginning with `c`, and the character after them. -/
def flagsOn : Nat → Char → List Char → Reads (List Char × Char)
  | 0, c, on => return (on, c)
  | fuel + 1, c, on => do
    if c = 'L' then fail .localeFlag
    let on := c :: on
    if (c = 'a' || c = 'u') && on.contains 'a' && on.contains 'u' then fail .classFlags
    let next ← takeFlag "-, : or )" [')', '-', ':']
    if isFlag next then flagsOn fuel next on else return (on, next)

/-- The flags to turn off, beginning with `c`. -/
def flagsOff : Nat → Char → List Char → Reads (List Char)
  | 0, _, off => return off
  | fuel + 1, c, off => do
    if c = 'a' || c = 'u' || c = 'L' then fail .classFlagOff
    let off := c :: off
    let next ← takeFlag ":" [':']
    if isFlag next then flagsOff fuel next off else return off

/-- Turns flags on and off. -/
def changed (flags : Flags) (on off : List Char) : Flags where
  ignoreCase := (flags.ignoreCase || on.contains 'i') && !off.contains 'i'
  multiline := (flags.multiline || on.contains 'm') && !off.contains 'm'
  dotAll := (flags.dotAll || on.contains 's') && !off.contains 's'
  verbose := (flags.verbose || on.contains 'x') && !off.contains 'x'
  ascii := if on.contains 'u' then false else flags.ascii || on.contains 'a'

/-- Flags after `(?`, beginning with `c`: those to turn on and off in a group, or nothing if they
were turned on for the whole pattern. -/
def flagChange (c : Char) : Reads (Option (List Char × List Char)) := do
  let n ← budget
  let (on, next) ← if c = '-' then pure ([], '-') else flagsOn n c []
  if next = ')' then
    modify fun s =>
      { s with
        flags := { changed s.flags on [] with ascii := s.flags.ascii || on.contains 'a' }
        allScripts := s.allScripts || on.contains 'u' }
    return none
  if on.contains 't' then failBefore (.globalFlag true) 1
  let off ← if next = '-' then takeFlag "flag" [] >>= (flagsOff n · []) else pure []
  if off.contains 't' then failBefore (.globalFlag false) 1
  if on.any off.contains then failBefore .flagOnOff 1
  return some (on, off)

/-- Takes a comment up to its parenthesis; `start` is where the group begins. -/
def comment (start : Nat) : Nat → Reads Unit
  | 0 => return
  | fuel + 1 => do
    match ← peek with
    | none => failBefore .openComment ((← here) - start)
    | some t =>
      let _ ← take
      if t ≠ [')'] then comment start fuel

/-- The group that a condition speaks of, by number. -/
def numberedCondition (name : List Char) : Reads Nat := do
  let bad : Reads Nat := failBefore (.badGroupName (String.ofList name)) (name.length + 1)
  let cs := Text.trim name
  let (negative, digits) := match cs with
    | '-' :: ds => (true, ds)
    | '+' :: ds => (false, ds)
    | ds => (false, ds)
  if digits = [] || !digits.all Decimal.isDigit then bad
  else
    let number := Decimal.value digits
    if negative && number ≠ 0 then bad
    else if number = 0 then failBefore .groupZero (name.length + 1)
    else if 1073741823 ≤ number then failBefore (.noGroup number) (name.length + 1)
    else
      let position := (← here) - name.length - 1
      modify fun s =>
        if s.conditions.any fun c => c.1 = number then s
        else { s with conditions := (number, position) :: s.conditions }
      return number

/-- The group that a condition speaks of. -/
def condition : Reads Nat := do
  let name ← takeUntil ')' "group name" (← budget) []
  let number ←
    if isIdentifier name then
      match (← get).names.lookup (String.ofList name) with
      | some number => pure number
      | none => failBefore (.unknownGroup (String.ofList name)) (name.length + 1)
    else numberedCondition name
  checkLookbehind number
  return number

/-- A reference to a group by its name. -/
def namedReference (flags : Flags) : Reads Node := do
  let name ← takeUntil ')' "group name" (← budget) []
  checkName name
  let s ← get
  match s.names.lookup (String.ofList name) with
  | none => failBefore (.unknownGroup (String.ofList name)) (name.length + 1)
  | some number =>
    if !isClosed s number then failBefore .openGroup (name.length + 1)
    checkLookbehind number
    return .reference flags number (((s.groups.getD number none)).getD ⟨0, 0⟩)

/-- What the head of a group announces. -/
inductive Head where
  /-- A group that keeps what it matches, perhaps with a name. -/
  | capture (name : Option (List Char))
  /-- A group with other flags. -/
  | plain (on off : List Char)
  /-- A part whose first match is final. -/
  | atomic
  /-- Something that stands ahead or just before, or does not. -/
  | look (behind negated : Bool)
  /-- A condition on a group. -/
  | conditional (number : Nat)
  /-- A complete piece. -/
  | piece (node : Node)
  /-- A comment. -/
  | nothing
  /-- Flags for the whole pattern. -/
  | globalFlags

/-- Fails because of something unknown after `(?`. -/
def unknownExtension {α : Type} (before : String) (t : List Char) : Reads α :=
  failBefore (.unknownExtension (before ++ String.ofList t)) (before.length + t.length + 1)

/-- Takes a token that has to be there. -/
def takeSome : Reads (List Char) := do
  match ← take with
  | some t => return t
  | none => fail .endOfPattern

/-- The head of a group after its parenthesis at `start`. -/
def head (flags : Flags) (start : Nat) : Reads Head := do
  if !(← accept '?') then return .capture none
  match ← takeSome with
  | ['P'] =>
    if ← accept '<' then
      let name ← takeUntil '>' "group name" (← budget) []
      checkName name
      return .capture (some name)
    if ← accept '=' then return .piece (← namedReference flags)
    unknownExtension "P" (← takeSome)
  | [':'] => return .plain [] []
  | ['#'] =>
    comment start (← budget)
    return .nothing
  | ['='] => return .look false false
  | ['!'] => return .look false true
  | ['<'] =>
    match ← takeSome with
    | ['='] => return .look true false
    | ['!'] => return .look true true
    | t => unknownExtension "<" t
  | ['('] => return .conditional (← condition)
  | ['>'] => return .atomic
  | [c] =>
    if isFlag c || c = '-' then
      match ← flagChange c with
      | some (on, off) => return .plain on off
      | none => return .globalFlags
    unknownExtension "" [c]
  | t => unknownExtension "" t

/-- Wants the parenthesis that closes the group which begins at `start`. -/
def close (start : Nat) : Reads Unit := do
  if !(← accept ')') then failBefore .openSubpattern ((← here) - start)

/-! ## Sequences and alternatives -/

/-- Where a sequence stands. -/
structure Surroundings where
  /-- The flags there. -/
  flags : Flags
  /-- Whether it is inside a group. -/
  nested : Bool
  /-- Whether it is the first alternative of the whole pattern. -/
  first : Bool
  /-- How many groups can stand inside each other there. -/
  room : Nat

/-- Takes a comment up to the end of the line. -/
def lineComment : Nat → Reads Unit
  | 0 => return
  | fuel + 1 => do
    match ← take with
    | none => return
    | some t => if t ≠ ['\n'] then lineComment fuel

/-- Whether a character means nothing in a verbose pattern. -/
def isPatternBlank (c : Char) : Bool := " \t\n\r\x0b\x0c".toList.contains c

/-- The piece that an escape stands for. -/
def escapePiece (flags : Flags) (t : List Char) (c : Char) : Reads Piece := do
  match ← escape t c with
  | .char code => return .other (.oneOf flags false [itemOf code])
  | .category kind negated => return .other (.oneOf flags false [.category kind negated])
  | .place anchor => return .place (.place flags anchor)
  | .group number =>
    let width := ((← get).groups.getD number none).getD ⟨0, 0⟩
    return .other (.reference flags number width)

/-- The surroundings inside a group. -/
def nestedIn (place : Surroundings) (flags : Flags) : Reads Surroundings :=
  match place.room with
  | 0 => throw .tooDeep
  | deeper + 1 => return ⟨flags, true, false, deeper⟩

/-- The node of pieces that are in reverse order. -/
def nodeOf (pieces : List Piece) : Node := Node.sequence (pieces.reverse.map Piece.node)

mutual

/-- Alternatives, and the sequences between their bars. -/
def alternatives : Nat → Surroundings → Reads Node
  | 0, _ => return .empty
  | fuel + 1, place => do
    let first ← sequence fuel place []
    if ← accept '|' then
      let s ← get
      let flags := if place.nested then place.flags else s.flags
      return .alt first (← alternatives fuel { place with flags := flags, first := false })
    return first

/-- One sequence, after the pieces that were found, the last first. -/
def sequence : Nat → Surroundings → List Piece → Reads Node
  | 0, _, found => return nodeOf found
  | fuel + 1, place, found => do
    match ← peek with
    | none | some ['|'] | some [')'] => return nodeOf found
    | some t =>
      let start ← here
      let _ ← take
      let next ← here
      let flags := place.flags
      let char (c : Char) : Reads Node :=
        sequence fuel place (.other (.oneOf flags false [.char c]) :: found)
      let repeats (least : Nat) (most : Option Nat) : Reads Node := do
        sequence fuel place (← repeated next least most found)
      match t with
      | ['\\', c] => sequence fuel place ((← escapePiece flags t c) :: found)
      | [c] =>
        if flags.verbose && isPatternBlank c then sequence fuel place found
        else if flags.verbose && c = '#' then
          lineComment (← budget)
          sequence fuel place found
        else
          match c with
          | '[' => sequence fuel place (.other (← characterSet flags) :: found)
          | '.' => sequence fuel place (.other (.any flags) :: found)
          | '^' => sequence fuel place (.place (.place flags .lineStart) :: found)
          | '$' => sequence fuel place (.place (.place flags .lineEnd) :: found)
          | '?' => repeats 0 (some 1)
          | '*' => repeats 0 none
          | '+' => repeats 1 none
          | '\x7b' =>
            match ← braces next with
            | none => char c
            | some (least, most) => repeats least most
          | '(' =>
            match ← head flags start with
            | .nothing => sequence fuel place found
            | .globalFlags =>
              if !place.first || !found.isEmpty then failBefore .lateFlags ((← here) - start)
              let s ← get
              sequence fuel { place with flags := s.flags } found
            | .piece node => sequence fuel place (.other node :: found)
            | h => sequence fuel place (.other (← group fuel place start h) :: found)
          | c => char c
      | _ => sequence fuel place found

/-- The rest of a group after its head. -/
def group : Nat → Surroundings → Nat → Head → Reads Node
  | 0, _, _, _ => return .empty
  | fuel + 1, place, start, h => do
    let flags := place.flags
    let inside (flags : Flags) : Reads Node := do alternatives fuel (← nestedIn place flags)
    match h with
    | .capture name =>
      let number ← openGroup name
      let body ← inside flags
      close start
      closeGroup number body
      return .group number body
    | .plain on off =>
      let body ← inside (changed flags on off)
      close start
      return body
    | .atomic =>
      let body ← inside flags
      close start
      return .atomic body
    | .look false negated =>
      let body ← inside flags
      close start
      return .ahead negated body
    | .look true negated =>
      let before := (← get).groupsBefore
      modify fun s => { s with groupsBefore := some (before.getD s.groups.length) }
      let body ← inside flags
      modify fun s => { s with groupsBefore := before }
      close start
      return .behind negated body
    | .conditional number =>
      let branch ← nestedIn place flags
      let yes ← sequence fuel branch []
      if ← accept '|' then
        let no ← sequence fuel branch []
        if (← peek) = some ['|'] then fail .threeBranches
        close start
        return .conditional number yes no
      close start
      return .conditional number yes .empty
    | _ => return .empty

end

/-- A whole pattern. -/
def whole : Reads Node := do
  checkEnd
  let n := 3 * (← budget) + 3
  let node ← alternatives n ⟨{}, false, true, Interpreter.grouping.depth⟩
  let s ← get
  if s.flags.ascii && s.allScripts then throw .flagConflict
  if !s.rest.isEmpty then fail .unbalanced
  match s.conditions.reverse.find? fun c => s.groups.length ≤ c.1 with
  | some (number, position) => throw (.at (.noGroup number) position)
  | none => return node

/-- The fault of a look-behind body that is not of one width. -/
def lookbehindFault? (body : Node) : Option Fault :=
  if Nat.pow 2 32 ≤ body.width.least then some .wideLookbehind
  else if body.width.least ≠ body.width.most then some .variableLookbehind
  else none

end Reader

variable [Interpreter]

/-- The tree of a pattern. -/
def read (cs : List Char) : Except Fault Node := do
  let (tokens, lone) := Reader.tokensFrom 0 cs
  let (node, _) ← Reader.whole.run
    { rest := tokens, loneBackslash := lone, size := cs.length, flags := {}, allScripts := false
      groups := [none], names := [], groupsBefore := none, conditions := [] }
  match node.lookbehinds.findSome? Reader.lookbehindFault? with
  | some f => .error f
  | none => .ok node

end MessageRouting.Pattern
