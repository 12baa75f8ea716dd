/-!
# Tokens of YAML

The tokens of a YAML text. Blocks, which the text shows by indentation, have tokens of their own for
their beginnings and ends, and the key of a mapping has a token in front of it.
-/

namespace MessageRouting.Yaml

/-- A line in front of a document that says how to read it. -/
inductive Directive where
  /-- The version of the language, of which only the first number matters. -/
  | version (major : Nat)
  /-- An abbreviation for tags. -/
  | tag (handle meaning : List Char)
  /-- Any other. -/
  | other
deriving DecidableEq, Repr

/-- A token. -/
inductive Token where
  /-- A directive. -/
  | directive (d : Directive)
  /-- Three dashes. -/
  | documentStart
  /-- Three dots. -/
  | documentEnd
  /-- The beginning of a block of items. -/
  | blockSequence
  /-- The beginning of a block of keys and values. -/
  | blockMapping
  /-- The end of a block. -/
  | blockEnd
  /-- An opening bracket. -/
  | flowSequence
  /-- A closing bracket. -/
  | flowSequenceEnd
  /-- An opening brace. -/
  | flowMapping
  /-- A closing brace. -/
  | flowMappingEnd
  /-- The dash of an item. -/
  | entry
  /-- A comma. -/
  | comma
  /-- The beginning of a key. -/
  | key
  /-- The colon before a value. -/
  | value
  /-- A reference to an anchor. -/
  | reference (name : List Char)
  /-- A name for the node that follows. -/
  | anchor (name : List Char)
  /-- A tag for the node that follows, with the handle of its abbreviation. -/
  | tag (handle : Option (List Char)) (suffix : List Char)
  /-- A scalar, and whether it stands without quotes. -/
  | scalar (text : List Char) (plain : Bool)
  /-- A scalar in quotes whose code points are not all characters. -/
  | broken (codes : List Nat)
deriving DecidableEq, Repr

end MessageRouting.Yaml
