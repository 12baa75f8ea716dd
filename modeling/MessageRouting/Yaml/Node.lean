import MessageRouting.Yaml.Lexer
import MessageRouting.Yaml.Scalar

/-!
# Nodes of a YAML document

A document is a tree of nodes with their kinds; references are already replaced by the nodes that
they name. A node that refers to itself would have no end: inside itself it is empty.
`Node.ofTokens?` reads the only document of a text from its tokens. A fault behind the tokens is met
when one more token is needed.
-/

namespace MessageRouting.Yaml

/-- A node of a document. -/
inductive Node where
  /-- A scalar. -/
  | scalar (tag : Tag) (text : List Char)
  /-- A scalar whose code points are not all characters. -/
  | broken (tag : Tag) (codes : List Nat)
  /-- A list. -/
  | sequence (tag : Tag) (items : List Node)
  /-- Keys and values. -/
  | mapping (tag : Tag) (pairs : List (Node × Node))

namespace Node

/-- What is known while nodes are read. -/
structure Progress where
  /-- The tokens that are left. -/
  tokens : List Token
  /-- The fault behind them. -/
  ending : Option Fault
  /-- How many lists and mappings can still begin inside each other. -/
  room : Nat
  /-- The nodes that anchors name. -/
  anchors : List (List Char × Node)
  /-- The names of anchors whose node is not complete, with what they stand for inside it. -/
  opened : List (List Char × Node)
  /-- What the handles of tags stand for. -/
  handles : List (List Char × List Char)

/-- Reading nodes, which can fail. -/
abbrev Reads := StateT Progress (Except Fault)

/-- Fails because the text is no document. -/
def malformed {α : Type} : Reads α := throw .malformed

/-- The next token; it is a failure if there is a fault instead. -/
def peek : Reads (Option Token) := do
  let s ← get
  match s.tokens, s.ending with
  | [], some f => throw f
  | ts, _ => return ts.head?

/-- Takes the next token. -/
def advance : Reads Unit := modify fun s => { s with tokens := s.tokens.tail }

/-- Takes the next token if it is this one. -/
def accept (t : Token) : Reads Bool := do
  if (← peek) = some t then
    advance
    return true
  return false

/-- Whether one of these tokens is next, or none. -/
def isNext (ts : List Token) : Reads Bool := do
  return match ← peek with
    | some t => ts.contains t
    | none => true

/-- Reads the parts of a list or mapping. -/
def inside {α : Type} (parts : Reads α) : Reads α := do
  match (← get).room with
  | 0 => throw .depth
  | room + 1 =>
    modify fun s => { s with room }
    let result ← parts
    modify fun s => { s with room := room + 1 }
    return result

/-- A node without any text. -/
def nothing : Node := .scalar .null []

/-- The name and the tag in front of a node. -/
structure Properties where
  /-- The name for references. -/
  anchor : Option (List Char)
  /-- The tag, written out in full. -/
  tag : Option (List Char)

/-- A tag written out in full. -/
def fullTag (handle : Option (List Char)) (suffix : List Char) : Reads (List Char) := do
  match handle with
  | none => return suffix
  | some h =>
    match (← get).handles.lookup h with
    | some meaning => return meaning ++ suffix
    | none => malformed

/-- The name and the tag in front of a node, in either order. -/
def properties : Reads Properties := do
  let anchor? : Reads (Option (List Char)) := do
    match ← peek with
    | some (.anchor a) =>
      advance
      return some a
    | _ => return none
  let tag? : Reads (Option (Option (List Char) × List Char)) := do
    match ← peek with
    | some (.tag h s) =>
      advance
      return some (h, s)
    | _ => return none
  let first ← anchor?
  let tag ← tag?
  let anchor ← if first.isNone && tag.isSome then anchor? else pure first
  match tag with
  | some (h, s) => return ⟨anchor, some (← fullTag h s)⟩
  | none => return ⟨anchor, none⟩

/-- Whether a tag leaves the kind open. -/
def isOpen (tag : Option (List Char)) : Bool := tag = none || tag = some ['!']

/-- The kind of a list or mapping. -/
def containerTag (tag : Option (List Char)) (usual : Tag) : Tag :=
  if isOpen tag then usual else Tag.ofName (String.ofList (tag.getD []))

/-- The kind of a scalar. -/
def scalarTag (tag : Option (List Char)) (plain : Bool) (text : List Char) : Tag :=
  match tag with
  | none => if plain then Tag.ofPlain text else .text
  | some ['!'] => Tag.ofPlain text
  | some name => Tag.ofName (String.ofList name)

/-- The kind of a scalar whose code points are not all characters. -/
def brokenTag : Option (List Char) → Tag
  | none | some ['!'] => .text
  | some name => Tag.ofName (String.ofList name)

/-- Notes a complete node under its name. -/
def named (anchor : Option (List Char)) (node : Node) : Reads Node := do
  match anchor with
  | none => return node
  | some a =>
    modify fun s =>
      { s with anchors := (a, node) :: s.anchors, opened := s.opened.filter (·.1 ≠ a) }
    return node

/-- The node of a name, which can be incomplete. -/
def Progress.meaning? (s : Progress) (a : List Char) : Option Node :=
  s.anchors.lookup a <|> s.opened.lookup a

/-- Notes that a node with a name begins, and what the name stands for inside the node. A name can
be given once. -/
def beginNamed (anchor : Option (List Char)) (inside : Node) : Reads Unit := do
  match anchor with
  | none => return
  | some a =>
    let s ← get
    if (s.meaning? a).isSome then malformed
    set { s with opened := (a, inside) :: s.opened }

/-- What kinds of blocks can begin here. -/
inductive Place where
  /-- Inside brackets: none. -/
  | flow
  /-- Any block. -/
  | block
  /-- Any block, and items that are not further indented than their key. -/
  | member
deriving DecidableEq

mutual

/-- A node. -/
def node : Nat → Place → Reads Node
  | 0, _ => malformed
  | fuel + 1, place => do
    match ← peek with
    | some (.reference a) =>
      advance
      match (← get).meaning? a with
      | some n => return n
      | none => malformed
    | _ =>
      let p ← properties
      let list := containerTag p.tag .sequence
      let object := containerTag p.tag .mapping
      let next ← peek
      beginNamed p.anchor
        (if next = some .flowMapping || next = some .blockMapping then .mapping object []
        else .sequence list [])
      let content : Reads Node :=
        match next with
        | some (.scalar text plain) => do
          advance
          return .scalar (scalarTag p.tag plain text) text
        | some (.broken codes) => do
          advance
          return .broken (brokenTag p.tag) codes
        | some .flowSequence => do
          advance
          return .sequence list (← inside (flowItems fuel true))
        | some .flowMapping => do
          advance
          return .mapping object (← inside (flowPairs fuel true))
        | some .blockSequence => do
          if place = .flow then malformed
          advance
          return .sequence list (← inside (blockItems fuel))
        | some .blockMapping => do
          if place = .flow then malformed
          advance
          return .mapping object (← inside (blockPairs fuel))
        | some .entry => do
          if place = .member then return .sequence list (← inside (looseItems fuel))
          if p.anchor.isNone && p.tag.isNone then malformed
          return .scalar (scalarTag p.tag true []) []
        | _ => do
          if p.anchor.isNone && p.tag.isNone then malformed
          return .scalar (scalarTag p.tag true []) []
      named p.anchor (← content)

/-- A node, or nothing if one of these tokens is next. -/
def nodeUnless : Nat → Place → List Token → Reads Node
  | 0, _, _ => malformed
  | fuel + 1, place, stops => do
    if ← isNext stops then return nothing
    node fuel place

/-- The items of a block. -/
def blockItems : Nat → Reads (List Node)
  | 0 => malformed
  | fuel + 1 => do
    if ← accept .entry then
      let item ← nodeUnless fuel .block [.entry, .blockEnd]
      return item :: (← blockItems fuel)
    if ← accept .blockEnd then return []
    malformed

/-- Items that are not further indented than their key. -/
def looseItems : Nat → Reads (List Node)
  | 0 => malformed
  | fuel + 1 => do
    if ← accept .entry then
      let item ← nodeUnless fuel .block [.entry, .key, .value, .blockEnd]
      return item :: (← looseItems fuel)
    return []

/-- The keys and values of a block. -/
def blockPairs : Nat → Reads (List (Node × Node))
  | 0 => malformed
  | fuel + 1 => do
    if ← accept .blockEnd then return []
    let hasKey ← accept .key
    let key ← if hasKey then nodeUnless fuel .member [.key, .value, .blockEnd] else pure nothing
    let hasValue ← accept .value
    if !hasKey then malformed
    let value ←
      if hasValue then nodeUnless fuel .member [.key, .value, .blockEnd] else pure nothing
    return (key, value) :: (← blockPairs fuel)

/-- The items in brackets. -/
def flowItems : Nat → Bool → Reads (List Node)
  | 0, _ => malformed
  | fuel + 1, first => do
    if ← accept .flowSequenceEnd then return []
    if !first then
      if !(← accept .comma) then malformed
    if ← accept .key then
      let pair ← inside (flowPair fuel)
      return .mapping .mapping [pair] :: (← flowItems fuel false)
    if ← accept .flowSequenceEnd then return []
    let item ← node fuel .flow
    return item :: (← flowItems fuel false)

/-- The only key of a mapping without braces, and its value. -/
def flowPair : Nat → Reads (Node × Node)
  | 0 => malformed
  | fuel + 1 => do
    let key ← nodeUnless fuel .flow [.value, .comma, .flowSequenceEnd]
    let hasValue ← accept .value
    let value ←
      if hasValue then nodeUnless fuel .flow [.comma, .flowSequenceEnd] else pure nothing
    return (key, value)

/-- The keys and values in braces. -/
def flowPairs : Nat → Bool → Reads (List (Node × Node))
  | 0, _ => malformed
  | fuel + 1, first => do
    if ← accept .flowMappingEnd then return []
    if !first then
      if !(← accept .comma) then malformed
    if ← accept .key then
      let key ← nodeUnless fuel .flow [.value, .comma, .flowMappingEnd]
      let hasValue ← accept .value
      let value ←
        if hasValue then nodeUnless fuel .flow [.comma, .flowMappingEnd] else pure nothing
      return (key, value) :: (← flowPairs fuel false)
    if ← accept .flowMappingEnd then return []
    let key ← node fuel .flow
    return (key, nothing) :: (← flowPairs fuel false)

end

/-- The directives in front of a document. -/
def directives : Nat → Bool → List (List Char × List Char) → Reads (List (List Char × List Char))
  | 0, _, found => return found
  | fuel + 1, versioned, found => do
    match ← peek with
    | some (.directive d) =>
      advance
      match d with
      | .version major =>
        if versioned || major ≠ 1 then malformed
        directives fuel true found
      | .tag handle meaning =>
        if (found.lookup handle).isSome then malformed
        directives fuel versioned ((handle, meaning) :: found)
      | .other => directives fuel versioned found
    | _ => return found

/-- The handles that need no directive. -/
def usualHandles : List (List Char × List Char) :=
  [(['!'], ['!']), (['!', '!'], "tag:yaml.org,2002:".toList)]

/-- Takes three dots as often as they come. -/
def skipEnds : Nat → Reads Unit
  | 0 => return
  | fuel + 1 => do if ← accept .documentEnd then skipEnds fuel

/-- Whether a token stands before a document or after it. -/
def isBetween : Option Token → Bool
  | none | some (.directive _) | some .documentStart | some .documentEnd => true
  | _ => false

/-- A document after three dashes. -/
def explicitDocument (n : Nat) : Reads Node := do
  let found ← directives n false []
  modify fun s => { s with handles := found ++ usualHandles }
  if !(← accept .documentStart) then malformed
  if isBetween (← peek) then return nothing
  node n .block

/-- The only document; a text without one has no node. -/
def document : Reads (Option Node) := do
  let n := 4 * (← get).tokens.length + 4
  let root ← match ← peek with
    | none => pure none
    | some (.directive _) | some .documentStart => some <$> explicitDocument n
    | _ => some <$> node n .block
  skipEnds n
  let next ← peek
  let _ ← directives n false []
  if next.isSome then malformed
  return root

/-- The only document of a text, from its tokens and the fault behind them. Lists and mappings
stand inside each other only as deep as the interpreter reads them. -/
def ofTokens? [Interpreter] (ts : List Token) (ending : Option Fault) :
    Except Fault (Option Node) :=
  (document.run { tokens := ts, ending, room := Interpreter.composeDepth, anchors := []
                  opened := [], handles := usualHandles }).map (·.1)

end Node

end MessageRouting.Yaml
