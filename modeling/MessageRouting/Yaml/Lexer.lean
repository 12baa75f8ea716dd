import MessageRouting.Decimal.Digits
import MessageRouting.Yaml.Fault
import MessageRouting.Yaml.Token

/-!
# From text to tokens

The lexer goes through the text once. It keeps the columns of the open blocks, so that a line that
begins further left closes blocks, and the places where a key may have begun without a question
mark: when a colon follows on the same line, the token of the key is put in front of it afterwards.
At a fault it stops with the tokens that cannot change any more: whoever reads these may find that
the text is no document before the fault is reached.
-/

namespace MessageRouting.Yaml

/-- A place where a key may have begun. -/
structure PossibleKey where
  /-- The number of tokens before it. -/
  tokenCount : Nat
  /-- Whether something has to be a key here, because a block of keys is open at this column. -/
  required : Bool
  /-- Its position. -/
  index : Nat
  /-- Its line. -/
  line : Nat
  /-- Its column. -/
  column : Nat

/-- What the lexer knows. -/
structure Lexer where
  /-- The text that is left. -/
  rest : List Char
  /-- The position. -/
  index : Nat
  /-- The line, from 0. -/
  line : Nat
  /-- The column, from 0. -/
  column : Nat
  /-- The tokens so far. -/
  tokens : Array Token
  /-- How many brackets and braces are open. -/
  flow : Nat
  /-- The column of the innermost block; -1 without one. -/
  indent : Int
  /-- The columns of the blocks around it. -/
  indents : List Int
  /-- Whether a key can begin here. -/
  keyAllowed : Bool
  /-- Where keys may have begun, at most one for each number of open brackets. -/
  keys : List (Nat × PossibleKey)

namespace Lexer

/-- Reading tokens, which can fail. -/
abbrev Lexes := StateT Lexer (Except Fault)

/-- Fails because the text is no document. -/
def malformed {α : Type} : Lexes α := throw .malformed

/-- Whether a character breaks a line. -/
def isBreak (c : Char) : Bool :=
  c = '\r' || c = '\n' || c = '\x85' || c = '\u2028' || c = '\u2029'

/-- Whether the text ends here or a line does. -/
def endsLine : List Char → Bool
  | [] => true
  | c :: _ => isBreak c

/-- Whether the text or a line ends here, or a blank follows. -/
def endsWord : List Char → Bool
  | [] => true
  | c :: _ => c = ' ' || isBreak c

/-- Whether the text or a line ends here, or a blank or tab follows. -/
def endsToken : List Char → Bool
  | [] => true
  | c :: _ => c = ' ' || c = '\t' || isBreak c

/-- The text that is left. -/
def text : Lexes (List Char) := do return (← get).rest

/-- The next character. -/
def peek : Lexes (Option Char) := do return (← get).rest.head?

/-- Goes on by one character. -/
def forward : Lexes Unit :=
  modify fun s =>
    match s.rest with
    | [] => s
    | c :: rest =>
      let s := { s with rest, index := s.index + 1 }
      if c = '\n' || c = '\x85' || c = '\u2028' || c = '\u2029' ||
          c = '\r' && rest.head? ≠ some '\n'
      then { s with line := s.line + 1, column := 0 }
      else if c = '\uFEFF' then s
      else { s with column := s.column + 1 }

/-- Goes on by several characters, and gives them. -/
def take : Nat → Lexes (List Char)
  | 0 => return []
  | n + 1 => do
    match ← peek with
    | none => return []
    | some c =>
      forward
      return c :: (← take n)

/-- Goes on while characters are of a kind, and gives them. -/
def takeWhile (p : Char → Bool) : Lexes (List Char) := do
  take ((← text).takeWhile p).length

/-- Goes on over blanks. -/
def skipBlanks : Lexes Unit := do
  let _ ← takeWhile (· = ' ')

/-- Goes on to the end of the line. -/
def skipLine : Lexes Unit := do
  let _ ← takeWhile fun c => !isBreak c

/-- Goes on over a line break, and gives what stands for it in a text. -/
def lineBreak : Lexes (List Char) := do
  match ← text with
  | '\r' :: '\n' :: _ =>
    let _ ← take 2
    return ['\n']
  | c :: _ =>
    if c = '\u2028' || c = '\u2029' then
      forward
      return [c]
    if isBreak c then
      forward
      return ['\n']
    return []
  | [] => return []

/-- Adds a token. -/
def emit (t : Token) : Lexes Unit := modify fun s => { s with tokens := s.tokens.push t }

/-- More than the number of steps to the end. -/
def budget : Lexes Nat := do return (← text).length + 2

/-! ## Blocks and keys -/

/-- Closes the blocks that begin to the right of a column. -/
def unwind (column : Int) : Lexes Unit :=
  modify fun s => if s.flow ≠ 0 then s else closeBlocks s (s.indents.length + 1)
where
  /-- Closes blocks one by one. -/
  closeBlocks (s : Lexer) : Nat → Lexer
    | 0 => s
    | n + 1 =>
      if column < s.indent then
        closeBlocks { s with
          indent := s.indents.headD (-1), indents := s.indents.tail
          tokens := s.tokens.push .blockEnd } n
      else s

/-- Opens a block at a column, if none is open there. -/
def openBlock (column : Int) : Lexes Bool := do
  let s ← get
  if s.indent < column then
    set { s with indents := s.indent :: s.indents, indent := column }
    return true
  return false

/-- Whether a place cannot be a key any more, because it is too far away or on another line. -/
def isStale (s : Lexer) (k : PossibleKey) : Bool := k.line ≠ s.line || 1024 < s.index - k.index

/-- Gives up the keys that cannot be keys any more. -/
def dropStaleKeys : Lexes Unit := do
  let s ← get
  if s.keys.any fun (_, k) => s.isStale k && k.required then malformed
  set { s with keys := s.keys.filter fun (_, k) => !s.isStale k }

/-- Gives up the possible key of the current brackets. -/
def dropKey : Lexes Unit := do
  let s ← get
  match s.keys.lookup s.flow with
  | some k => if k.required then malformed
  | none => pure ()
  set { s with keys := s.keys.filter fun (level, _) => level ≠ s.flow }

/-- Notes that a key may begin here. -/
def saveKey : Lexes Unit := do
  if (← get).keyAllowed then
    dropKey
    modify fun s =>
      let key : PossibleKey :=
        ⟨s.tokens.size, s.flow = 0 && s.indent = s.column, s.index, s.line, s.column⟩
      { s with keys := (s.flow, key) :: s.keys }

/-- Sets whether a key can begin. -/
def allowKey (b : Bool) : Lexes Unit := modify fun s => { s with keyAllowed := b }

/-! ## Names, tags and directives -/

/-- Whether a character can be part of a name. -/
def isNamePart (c : Char) : Bool := c.isAlphanum || c = '-' || c = '_'

/-- A name of at least one character. -/
def name : Lexes (List Char) := do
  match ← takeWhile isNamePart with
  | [] => malformed
  | cs => return cs

/-- The name of an anchor, or a reference to it, after its sign. -/
def anchorName : Lexes (List Char) := do
  forward
  let cs ← name
  let rest ← text
  if endsToken rest || (rest.head?.map "?:,]\x7d%@`".toList.contains).getD false then return cs
  malformed

/-- Digits. -/
def number : Lexes Nat := do
  match ← takeWhile Decimal.isDigit with
  | [] => malformed
  | cs =>
    if MessageRouting.Fault.maxDigits < cs.length then throw (.digits cs.length)
    return Decimal.value cs

/-- A handle of tags: an exclamation mark, or a name between two of them. -/
def handle : Lexes (List Char) := do
  match ← text with
  | '!' :: ' ' :: _ => take 1
  | '!' :: rest =>
    let cs := rest.takeWhile isNamePart
    match rest.drop cs.length with
    | '!' :: _ => take (cs.length + 2)
    | _ => malformed
  | _ => malformed

/-- Whether a character can be part of a tag. -/
def isTagPart (c : Char) : Bool := c.isAlphanum || "-;/?:@&=+$,_.!~*'()[]".toList.contains c

/-- A byte written as a percent sign and two hexadecimal digits. -/
def percentByte? : List Char → Option UInt8
  | '%' :: a :: b :: _ => do return UInt8.ofNat ((← hex? a) * 16 + (← hex? b))
  | _ => none
where
  /-- The value of a hexadecimal digit. -/
  hex? (c : Char) : Option Nat :=
    if Decimal.isDigit c then some (c.toNat - 48)
    else if 'a' ≤ c && c ≤ 'f' then some (c.toNat - 87)
    else if 'A' ≤ c && c ≤ 'F' then some (c.toNat - 55)
    else none

/-- Bytes written with percent signs. -/
def percentBytes : Nat → ByteArray → Lexes ByteArray
  | 0, found => return found
  | fuel + 1, found => do
    let rest ← text
    if rest.head? ≠ some '%' then return found
    match percentByte? rest with
    | none => malformed
    | some b =>
      let _ ← take 3
      percentBytes fuel (found.push b)

/-- The part of a tag after its handle. -/
def tagSuffix : Nat → List Char → Lexes (List Char)
  | 0, found => return found
  | fuel + 1, found => do
    let found := found ++ (← takeWhile isTagPart)
    if (← peek) = some '%' then
      match String.fromUTF8? (← percentBytes (← budget) .empty) with
      | some s => tagSuffix fuel (found ++ s.toList)
      | none => malformed
    else if found = [] then malformed
    else return found

/-- A tag. -/
def tag : Lexes Token := do
  let rest ← text
  let token ← match rest with
    | '!' :: '<' :: _ => do
      let _ ← take 2
      let suffix ← tagSuffix (← budget) []
      if (← peek) ≠ some '>' then malformed
      forward
      pure (Token.tag none suffix)
    | _ =>
      if endsToken rest.tail then do
        forward
        pure (Token.tag none ['!'])
      else do
        let word := rest.tail.takeWhile fun c => c ≠ ' ' && !isBreak c
        let h ← if word.contains '!' then handle else take 1
        pure (Token.tag (some h) (← tagSuffix (← budget) []))
  if endsWord (← text) then return token
  malformed

/-- The end of a line that holds nothing more than a comment. -/
def emptyLine : Lexes Unit := do
  skipBlanks
  if (← peek) = some '#' then skipLine
  if !endsLine (← text) then malformed
  let _ ← lineBreak

/-- A directive. -/
def directive : Lexes Directive := do
  forward
  let cs ← name
  if !endsWord (← text) then malformed
  let d ←
    if cs = "YAML".toList then do
      skipBlanks
      let major ← number
      if (← peek) ≠ some '.' then malformed
      forward
      let _ ← number
      if !endsWord (← text) then malformed
      pure (.version major)
    else if cs = "TAG".toList then do
      skipBlanks
      let h ← handle
      if (← peek) ≠ some ' ' then malformed
      skipBlanks
      let meaning ← tagSuffix (← budget) []
      if !endsWord (← text) then malformed
      pure (.tag h meaning)
    else do
      skipLine
      pure .other
  emptyLine
  return d

/-! ## Scalars -/

/-- Whether a line of three dashes or dots follows, which separates documents. -/
def separatesDocuments (cs : List Char) : Bool :=
  match cs with
  | '-' :: '-' :: '-' :: rest | '.' :: '.' :: '.' :: rest => endsToken rest
  | _ => false

/-- Line breaks inside a quoted scalar, with the blanks around them. -/
def quotedBreaks : Nat → Lexes (List Char)
  | 0 => return []
  | fuel + 1 => do
    if separatesDocuments (← text) then malformed
    let _ ← takeWhile fun c => c = ' ' || c = '\t'
    match ← lineBreak with
    | [] => return []
    | b => return b ++ (← quotedBreaks fuel)

/-- The characters that escapes of one letter stand for. -/
def escaped? : Char → Option Char
  | '0' => some '\x00'
  | 'a' => some '\x07'
  | 'b' => some '\x08'
  | 't' | '\t' => some '\t'
  | 'n' => some '\n'
  | 'v' => some '\x0b'
  | 'f' => some '\x0c'
  | 'r' => some '\r'
  | 'e' => some '\x1b'
  | ' ' => some ' '
  | '"' => some '"'
  | '\\' => some '\\'
  | '/' => some '/'
  | 'N' => some '\x85'
  | '_' => some '\xa0'
  | 'L' => some '\u2028'
  | 'P' => some '\u2029'
  | _ => none

/-- How many hexadecimal digits an escape has. -/
def escapeWidth? : Char → Option Nat
  | 'x' => some 2
  | 'u' => some 4
  | 'U' => some 8
  | _ => none

/-- The code point that hexadecimal digits stand for. -/
def hexEscape (width : Nat) : Lexes Nat := do
  let cs := (← text).take width
  match cs.mapM percentByte?.hex? with
  | none => malformed
  | some ds =>
    if ds.length ≠ width then malformed
    let code := ds.foldl (fun n d => 16 * n + d) 0
    if 0x110000 ≤ code then throw (.codePoint code)
    let _ ← take width
    return code

/-- The code points that an escape stands for. -/
def quotedEscape : Lexes (List Nat) := do
  forward
  match ← text with
  | [] => malformed
  | c :: _ =>
    match escaped? c, escapeWidth? c with
    | some d, _ =>
      forward
      return [d.toNat]
    | none, some width =>
      forward
      return [← hexEscape width]
    | none, none =>
      if isBreak c then
        let _ ← lineBreak
        return (← quotedBreaks (← budget)).map Char.toNat
      else malformed

/-- White space inside a quoted scalar: a single line break is a blank. -/
def quotedSpaces : Lexes (List Char) := do
  let blanks ← takeWhile fun c => c = ' ' || c = '\t'
  match ← text with
  | [] => malformed
  | c :: _ =>
    if isBreak c then
      let b ← lineBreak
      let breaks ← quotedBreaks (← budget)
      if b ≠ ['\n'] then return b ++ breaks
      return if breaks = [] then [' '] else breaks
    return blanks

/-- The code points of a quoted scalar after its opening quote. -/
def quotedRest (double : Bool) : Nat → Lexes (List Nat)
  | 0 => malformed
  | fuel + 1 => do
    match ← text with
    | [] => malformed
    | c :: rest =>
      if c = ' ' || c = '\t' || isBreak c then
        let part ← quotedSpaces
        return part.map Char.toNat ++ (← quotedRest double fuel)
      else if double && c = '"' then
        forward
        return []
      else if double && c = '\\' then
        let part ← quotedEscape
        return part ++ (← quotedRest double fuel)
      else if !double && c = '\'' then
        if rest.head? = some '\'' then
          let _ ← take 2
          return c.toNat :: (← quotedRest double fuel)
        forward
        return []
      else
        forward
        return c.toNat :: (← quotedRest double fuel)

/-- A quoted scalar. -/
def quoted (double : Bool) : Lexes Token := do
  forward
  let codes ← quotedRest double (← budget)
  return if codes.all MessageRouting.Scalar.isCharCode then .scalar (codes.map Char.ofNat) false
    else .broken codes

/-- Whether a plain scalar stops here. -/
def endsPlain (inFlow : Bool) : List Char → Bool
  | [] => true
  | c :: rest =>
    endsToken (c :: rest) ||
      c = ':' && (endsToken rest ||
        inFlow && (rest.head?.map ",[]\x7b\x7d".toList.contains).getD false) ||
      inFlow && ",?[]\x7b\x7d".toList.contains c

/-- The number of characters up to where a plain scalar stops. -/
def plainLength (inFlow : Bool) : List Char → Nat
  | [] => 0
  | c :: rest => if endsPlain inFlow (c :: rest) then 0 else plainLength inFlow rest + 1

/-- Line breaks after a line of a plain scalar; without result if documents are separated there. -/
def plainBreaks : Nat → List Char → Lexes (Option (List Char))
  | 0, found => return some found
  | fuel + 1, found => do
    if separatesDocuments (← text) then return none
    skipBlanks
    match ← lineBreak with
    | [] => return some found
    | b => plainBreaks fuel (found ++ b)

/-- White space after a part of a plain scalar, as it is kept if the scalar goes on. -/
def plainSpaces : Lexes (List Char) := do
  let blanks ← takeWhile (· = ' ')
  match ← lineBreak with
  | [] => return blanks
  | b =>
    allowKey true
    match ← plainBreaks (← budget) [] with
    | none => return []
    | some breaks =>
      if b ≠ ['\n'] then return b ++ breaks
      return if breaks = [] then [' '] else breaks

/-- A plain scalar; `spaces` stand before the part that follows. -/
def plainFrom (indent : Int) : Nat → List Char → Lexes (List Char)
  | 0, _ => return []
  | fuel + 1, spaces => do
    let s ← get
    if s.rest.head? = some '#' then return []
    match plainLength (s.flow ≠ 0) s.rest with
    | 0 => return []
    | n =>
      allowKey false
      let part ← take n
      let after ← plainSpaces
      let s ← get
      if after = [] || s.rest.head? = some '#' || s.flow = 0 && (s.column : Int) < indent then
        return spaces ++ part
      return spaces ++ part ++ (← plainFrom indent fuel after)

/-- A plain scalar. -/
def plain : Lexes (List Char) := do
  let s ← get
  plainFrom (s.indent + 1) (← budget) []

/-- What happens to the line breaks at the end of a block scalar. -/
inductive Chomping where
  /-- All are dropped. -/
  | strip
  /-- One is kept. -/
  | clip
  /-- All are kept. -/
  | keep
deriving DecidableEq

/-- A sign that says what happens to the last line breaks. -/
def chompingSign : Lexes (Option Chomping) := do
  match ← peek with
  | some '+' =>
    forward
    return some .keep
  | some '-' =>
    forward
    return some .strip
  | _ => return none

/-- A digit that says how far a block scalar is indented. -/
def indentDigit : Lexes (Option Nat) := do
  match ← peek with
  | some c =>
    if Decimal.isDigit c then
      if c = '0' then malformed
      forward
      return some (Decimal.digitValue c)
    return none
  | none => return none

/-- The signs after the sign of a block scalar, in either order. -/
def blockSigns : Lexes (Chomping × Option Nat) := do
  let result ← match ← chompingSign with
    | some c => do
      let n ← indentDigit
      pure (c, n)
    | none => do
      match ← indentDigit with
      | some n => do
        let c ← chompingSign
        pure (c.getD .clip, some n)
      | none => pure (.clip, none)
  if endsWord (← text) then return result
  malformed

/-- Blanks up to a column. -/
def skipToColumn (column : Nat) : Lexes Unit := do
  let s ← get
  let _ ← take (min (column - s.column) (s.rest.takeWhile (· = ' ')).length)

/-- Empty lines of a block scalar that is indented to a column. -/
def blockBreaks (column : Nat) : Nat → Lexes (List Char)
  | 0 => return []
  | fuel + 1 => do
    skipToColumn column
    match ← lineBreak with
    | [] => return []
    | b => return b ++ (← blockBreaks column fuel)

/-- Empty lines in front of a block scalar, and the greatest column in them. -/
def blockIndent : Nat → List Char → Nat → Lexes (List Char × Nat)
  | 0, breaks, greatest => return (breaks, greatest)
  | fuel + 1, breaks, greatest => do
    skipBlanks
    let s ← get
    let greatest := max greatest s.column
    match ← lineBreak with
    | [] => return (breaks, greatest)
    | b => blockIndent fuel (breaks ++ b) greatest

/-- The lines of a block scalar: its text without the last line break, that break, and the empty
lines after it. -/
def blockLines (folded : Bool) (column : Nat) :
    Nat → List Char → List Char → Lexes (List Char × List Char × List Char)
  | 0, breaks, last => return ([], last, breaks)
  | fuel + 1, breaks, _ => do
    let isIndented (cs : List Char) : Bool := cs.head? = some ' ' || cs.head? = some '\t'
    let spacedStart := isIndented (← text)
    let line ← takeWhile fun c => !isBreak c
    let last ← lineBreak
    let after ← blockBreaks column (← budget)
    let s ← get
    if s.column = column && !s.rest.isEmpty then
      let joint :=
        if folded && last = ['\n'] && !spacedStart && !isIndented s.rest then
          if after = [] then [' '] else []
        else last
      let (more, last, after) ← blockLines folded column fuel after last
      return (breaks ++ line ++ joint ++ more, last, after)
    return (breaks ++ line, last, after)

/-- A block scalar. -/
def block (folded : Bool) : Lexes (List Char) := do
  forward
  let (chomping, increment) ← blockSigns
  emptyLine
  let s ← get
  let least := (max (s.indent + 1) 1).toNat
  let (breaks, column) ← match increment with
    | some n => do
      let column := least + n - 1
      let breaks ← blockBreaks column (← budget)
      pure (breaks, column)
    | none => do
      let (breaks, greatest) ← blockIndent (← budget) [] 0
      pure (breaks, max least greatest)
  let s ← get
  let (body, last, after) ←
    if s.column = column && !s.rest.isEmpty then
      blockLines folded column (← budget) breaks []
    else pure ([], [], breaks)
  return match chomping with
    | .strip => body
    | .clip => body ++ last
    | .keep => body ++ last ++ after

/-! ## Tokens -/

/-- Goes on to the next token over blanks, comments and line breaks. -/
def skipToToken : Nat → Lexes Unit
  | 0 => return
  | fuel + 1 => do
    skipBlanks
    if (← peek) = some '#' then skipLine
    match ← lineBreak with
    | [] => return
    | _ =>
      if (← get).flow = 0 then allowKey true
      skipToToken fuel

/-- An opening bracket or brace. -/
def openFlow (t : Token) : Lexes Unit := do
  saveKey
  modify fun s => { s with flow := s.flow + 1, keyAllowed := true }
  forward
  emit t

/-- A closing bracket or brace. -/
def closeFlow (t : Token) : Lexes Unit := do
  dropKey
  modify fun s => { s with flow := s.flow - 1, keyAllowed := false }
  forward
  emit t

/-- The dash of an item. -/
def blockEntry : Lexes Unit := do
  let s ← get
  if s.flow = 0 then
    if !s.keyAllowed then malformed
    if ← openBlock s.column then emit .blockSequence
  allowKey true
  dropKey
  forward
  emit .entry

/-- The question mark of a key. -/
def explicitKey : Lexes Unit := do
  let s ← get
  if s.flow = 0 then
    if !s.keyAllowed then malformed
    if ← openBlock s.column then emit .blockMapping
  allowKey (s.flow = 0)
  dropKey
  forward
  emit .key

/-- Puts tokens in front of earlier ones. -/
def insertAt (position : Nat) (ts : List Token) : Lexes Unit :=
  modify fun s =>
    { s with tokens := s.tokens.extract 0 position ++ ts.toArray ++
        s.tokens.extract position s.tokens.size }

/-- The colon before a value. What may have been a key before it is one. -/
def valueSign : Lexes Unit := do
  let s ← get
  match s.keys.lookup s.flow with
  | some key =>
    set { s with keys := s.keys.filter fun (level, _) => level ≠ s.flow }
    let opened ← if s.flow = 0 then openBlock key.column else pure false
    insertAt key.tokenCount (if opened then [.blockMapping, .key] else [.key])
    allowKey false
  | none =>
    if s.flow = 0 then
      if !s.keyAllowed then malformed
      if ← openBlock s.column then emit .blockMapping
    allowKey (s.flow = 0)
    dropKey
  forward
  emit .value

/-- Ends all blocks before something that stands between documents. -/
def leaveDocument : Lexes Unit := do
  unwind (-1)
  dropKey
  allowKey false

/-- Something that can begin a key. -/
def keyStart (t : Lexes Token) : Lexes Unit := do
  saveKey
  allowKey false
  emit (← t)

/-- A block scalar as a token. -/
def blockToken (folded : Bool) : Lexes Unit := do
  allowKey true
  dropKey
  emit (.scalar (← block folded) false)

/-- Whether a plain scalar begins here. -/
def beginsPlain (inFlow : Bool) : List Char → Bool
  | [] => false
  | c :: rest =>
    !endsToken [c] && !"-?:,[]\x7b\x7d#&*!|>'\"%@`".toList.contains c ||
      !endsToken rest && (c = '-' || !inFlow && (c = '?' || c = ':'))

/-- The next token that does not depend on indentation. -/
def token : Lexes Unit := do
  let s ← get
  let inFlow := s.flow ≠ 0
  match s.rest with
  | [] => leaveDocument
  | c :: rest =>
    let separated := s.column = 0 && separatesDocuments s.rest
    if c = '%' && s.column = 0 then
      leaveDocument
      emit (.directive (← directive))
    else if separated then
      leaveDocument
      let _ ← take 3
      emit (if c = '-' then .documentStart else .documentEnd)
    else if c = '[' then openFlow .flowSequence
    else if c = '\x7b' then openFlow .flowMapping
    else if c = ']' then closeFlow .flowSequenceEnd
    else if c = '\x7d' then closeFlow .flowMappingEnd
    else if c = ',' then
      allowKey true
      dropKey
      forward
      emit .comma
    else if c = '-' && endsToken rest then blockEntry
    else if c = '?' && (inFlow || endsToken rest) then explicitKey
    else if c = ':' && (inFlow || endsToken rest) then valueSign
    else if c = '*' then keyStart (do return .reference (← anchorName))
    else if c = '&' then keyStart (do return .anchor (← anchorName))
    else if c = '!' then keyStart tag
    else if c = '|' && !inFlow then blockToken false
    else if c = '>' && !inFlow then blockToken true
    else if c = '\'' then keyStart (quoted false)
    else if c = '"' then keyStart (quoted true)
    else if beginsPlain inFlow s.rest then keyStart (do return .scalar (← plain) true)
    else malformed

/-- The next token and what indentation puts in front of it, and whether more can follow. -/
def step : Lexes Bool := do
  skipToToken (← budget)
  dropStaleKeys
  unwind (← get).column
  let atEnd := (← text).isEmpty
  token
  return !atEnd

/-- The tokens that cannot change any more: no key can be put in front of them. -/
def settled (s : Lexer) : List Token :=
  let places := (s.keys.filter fun (_, k) => !s.isStale k).map (·.2.tokenCount)
  s.tokens.toList.take (places.foldl min s.tokens.size)

/-- All tokens, or those in front of a fault, and the fault. -/
def all : Nat → Lexer → List Token × Option Fault
  | 0, s => (s.tokens.toList, none)
  | fuel + 1, s =>
    match step.run s with
    | .ok (true, s') => all fuel s'
    | .ok (false, s') => (s'.tokens.toList, none)
    | .error f => (s.settled, some f)

end Lexer

/-- Whether a character can stand in a document. -/
def isAllowed (c : Char) : Bool :=
  let n := c.toNat
  n = 9 || n = 10 || n = 13 || 0x20 ≤ n && n ≤ 0x7E || n = 0x85 || 0xA0 ≤ n && n ≤ 0xD7FF ||
    0xE000 ≤ n && n ≤ 0xFFFD || 0x10000 ≤ n

/-- The tokens of a text, up to the fault in it if there is one. A byte order mark in front is
passed over. -/
def tokens (cs : List Char) : List Token × Option Fault :=
  if !cs.all isAllowed then ([], some .malformed)
  else
    let marked := cs.head? = some '\uFEFF'
    Lexer.all (cs.length + 2)
      { rest := if marked then cs.tail else cs, index := if marked then 1 else 0, line := 0
        column := 0, tokens := #[], flow := 0, indent := -1, indents := [], keyAllowed := true
        keys := [] }

end MessageRouting.Yaml
