/-!
# Patterns as trees

A pattern is a tree of `Pattern.Node`s. `Node.width` gives the least and the greatest number of
characters that a node can match; a look-behind needs a body of one width.
-/

namespace MessageRouting.Pattern

/-- How characters are compared and classified. -/
structure Flags where
  /-- Upper and lower case are the same. -/
  ignoreCase : Bool := false
  /-- Lines have beginnings and ends of their own. -/
  multiline : Bool := false
  /-- The dot also matches a line break. -/
  dotAll : Bool := false
  /-- Blanks and comments in the pattern mean nothing. -/
  verbose : Bool := false
  /-- Character classes know ASCII only. -/
  ascii : Bool := false
deriving DecidableEq, Repr

/-- A class of characters. -/
inductive CharClass where
  /-- Decimal digits. -/
  | digit
  /-- Blanks. -/
  | space
  /-- Letters, numbers and the underscore. -/
  | word
deriving DecidableEq, Repr

/-- A part of a character set. -/
inductive SetItem where
  /-- One character. -/
  | char (c : Char)
  /-- The characters between two code points, both included. -/
  | range (low high : Nat)
  /-- A class of characters, or all others. -/
  | category (kind : CharClass) (negated : Bool)
deriving DecidableEq, Repr

/-- A place in the text. -/
inductive Anchor where
  /-- The beginning of the text, or of a line. -/
  | lineStart
  /-- The end of the text, or of a line. -/
  | lineEnd
  /-- The beginning of the text. -/
  | textStart
  /-- The end of the text. -/
  | textEnd
  /-- A place between a word and something else, or any other place. -/
  | boundary (negated : Bool)
deriving DecidableEq, Repr

/-- How a repetition chooses its count. -/
inductive Greed where
  /-- As often as possible, but less if the rest needs it. -/
  | greedy
  /-- As rarely as possible, but more if the rest needs it. -/
  | lazy
  /-- As often as possible. -/
  | possessive
deriving DecidableEq, Repr

/-- The least and the greatest number of characters that a part can match. -/
structure Width where
  /-- The least number. -/
  least : Nat
  /-- The greatest number. -/
  most : Nat
deriving DecidableEq, Repr

/-- A pattern. -/
inductive Node where
  /-- Matches no characters, everywhere. -/
  | empty
  /-- One character of a set, or one outside it. -/
  | oneOf (flags : Flags) (negated : Bool) (items : List SetItem)
  /-- Any character; a line break only with `dotAll`. -/
  | any (flags : Flags)
  /-- A place. -/
  | place (flags : Flags) (anchor : Anchor)
  /-- One after the other. -/
  | seq (first second : Node)
  /-- The first, or else the second. -/
  | alt (first second : Node)
  /-- A group that keeps what it matched. -/
  | group (number : Nat) (body : Node)
  /-- A repetition; without `most` there is no greatest count. -/
  | repetition (greed : Greed) (least : Nat) (most : Option Nat) (body : Node)
  /-- What a group matched, again. -/
  | reference (flags : Flags) (number : Nat) (width : Width)
  /-- One of two patterns, depending on whether a group has matched. -/
  | conditional (number : Nat) (matched unmatched : Node)
  /-- Something that stands ahead, or does not. -/
  | ahead (negated : Bool) (body : Node)
  /-- Something that stands just before, or does not. -/
  | behind (negated : Bool) (body : Node)
  /-- A part whose first match is final. -/
  | atomic (body : Node)
deriving Repr

namespace Width

/-- The greatest width that is counted. -/
def limit : Nat := Nat.pow 2 64

/-- A width, cut at the limit. -/
def make (least most : Nat) : Width := ⟨min least limit, min most limit⟩

end Width

namespace Node

/-- The least and the greatest number of characters that a node can match. -/
def width : Node → Width
  | empty | place .. | ahead .. | behind .. => ⟨0, 0⟩
  | oneOf .. | any _ => ⟨1, 1⟩
  | seq a b =>
    let x := a.width
    let y := b.width
    .make (x.least + y.least) (x.most + y.most)
  | alt a b =>
    let x := a.width
    let y := b.width
    .make (min x.least y.least) (max x.most y.most)
  | group _ body | atomic body => body.width
  | repetition _ least most body =>
    let x := body.width
    .make (x.least * least) (match most with
      | some n => x.most * n
      | none => if x.most = 0 then 0 else Width.limit)
  | reference _ _ w => w
  | conditional _ a b =>
    let x := a.width
    let y := b.width
    .make (min x.least y.least) (max x.most y.most)

/-- The look-behind bodies of a pattern, outer ones first. -/
def lookbehinds : Node → List Node
  | empty | place .. | oneOf .. | any _ | reference .. => []
  | seq a b | alt a b | conditional _ a b => a.lookbehinds ++ b.lookbehinds
  | group _ body | atomic body | repetition _ _ _ body | ahead _ body => body.lookbehinds
  | behind _ body => body :: body.lookbehinds

/-- Nodes one after the other. -/
def sequence (nodes : List Node) : Node :=
  match nodes with
  | [] => .empty
  | [n] => n
  | n :: rest => .seq n (sequence rest)

end Node

end MessageRouting.Pattern
