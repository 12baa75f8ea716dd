import MessageRouting.Decimal.Digits
import MessageRouting.Pattern.Reader
import MessageRouting.Text.Alphanumeric
import MessageRouting.Text.Blank
import MessageRouting.Text.Lowercase

/-!
# Searching for patterns

`Pattern.Node.tries` runs a pattern against a place in a text. What comes after the pattern is a
function that it hands its place to; if that function fails, the pattern goes back and tries its
next possibility. `Pattern.occursIn` tries all places of a text from left to right.
-/

namespace MessageRouting.Pattern

/-! ## Single characters -/

/-- Code points whose lower-case letters count as one letter though they are different. -/
def sharedLetters : List (List Nat) := [
  [105, 305], [115, 383], [181, 956], [837, 953, 8126], [912, 8147], [944, 8163], [946, 976],
  [949, 1013], [952, 977], [954, 1008], [960, 982], [961, 1009], [962, 963], [966, 981],
  [1074, 7296], [1076, 7297], [1086, 7298], [1089, 7299], [1090, 7300, 7301], [1098, 7302],
  [1123, 7303], [7304, 42571], [7777, 7835], [64261, 64262]]

/-- The lower-case letters that count as the same as one of them. -/
def letterClass (code : Nat) : List Nat :=
  (sharedLetters.find? (·.contains code)).getD [code]

/-- A letter and the upper-case letters that it belongs to. -/
def casesOf (code : Nat) : List Nat :=
  code :: Text.caseRuns.filterMap fun r =>
    let upper := ((code : Int) - r.shift).toNat
    if r.first ≤ upper && upper ≤ r.last && (upper - r.first) % r.step = 0 then some upper
    else none

/-- All code points that a character is the same as when case is ignored. -/
def variants (flags : Flags) (c : Char) : List Nat :=
  if !flags.ignoreCase then [c.toNat]
  else if flags.ascii then [c.toLower.toNat, c.toUpper.toNat]
  else (letterClass (Text.lowerChar c).toNat).flatMap casesOf

/-- Whether a character belongs to a class. -/
def CharClass.contains (ascii : Bool) (c : Char) : CharClass → Bool
  | .digit => if ascii then Decimal.isDigit c else Text.isDecimalDigit c
  | .space =>
    if ascii then c = ' ' || 9 ≤ c.toNat && c.toNat ≤ 13 else Text.isBlank c
  | .word => if ascii then c.isAlphanum || c = '_' else Text.isWordPart c

/-- Whether an item of a set has a character, of which all variants are given. -/
def SetItem.contains (flags : Flags) (c : Char) (variants : List Nat) : SetItem → Bool
  | .char d => variants.contains d.toNat
  | .range low high => variants.any fun n => low ≤ n && n ≤ high
  | .category kind negated => kind.contains flags.ascii c != negated

/-- Whether a set has a character. -/
def inSet (flags : Flags) (items : List SetItem) (c : Char) : Bool :=
  let vs := variants flags c
  items.any fun i => i.contains flags c vs

/-- Whether a character repeats another one. -/
def repeats (flags : Flags) (c d : Char) : Bool :=
  if !flags.ignoreCase then c = d
  else if flags.ascii then c.toLower = d.toLower
  else Text.lowerChar c = Text.lowerChar d

/-! ## Places -/

/-- A place in a text, with what the groups have matched so far. -/
structure Spot where
  /-- The text before the place, the last character first. -/
  before : List Char
  /-- The text after the place. -/
  after : List Char
  /-- What groups have matched, the latest first. -/
  groups : List (Nat × List Char)

namespace Spot

/-- The place after the next character. -/
def next? (s : Spot) : Option (Char × Spot) :=
  match s.after with
  | [] => none
  | c :: rest => some (c, { s with before := c :: s.before, after := rest })

/-- The place some characters earlier. -/
def back? : Nat → Spot → Option Spot
  | 0, s => some s
  | n + 1, s =>
    match s.before with
    | [] => none
    | c :: rest => back? n { s with before := rest, after := c :: s.after }

/-- Whether a place in a text is an anchor. -/
def isAt (s : Spot) (flags : Flags) : Anchor → Bool
  | .textStart => s.before.isEmpty
  | .textEnd => s.after.isEmpty
  | .lineStart => s.before.isEmpty || flags.multiline && s.before.head? = some '\n'
  | .lineEnd =>
    s.after.isEmpty || s.after = ['\n'] || flags.multiline && s.after.head? = some '\n'
  | .boundary negated =>
    let isWord (c : Option Char) : Bool :=
      (c.map fun c => CharClass.word.contains flags.ascii c).getD false
    let between := isWord s.before.head? != isWord s.after.head?
    !(s.before.isEmpty && s.after.isEmpty) && between != negated

/-- What a group has matched. -/
def group? (s : Spot) (number : Nat) : Option (List Char) := s.groups.lookup number

/-- Keeps what stands between an earlier place and this one as the match of a group. -/
def keep (s : Spot) (number : Nat) (start : Spot) : Spot :=
  let matched := (s.before.take (s.before.length - start.before.length)).reverse
  { s with groups := (number, matched) :: s.groups }

/-- The place after a text that is repeated here. -/
def after? (flags : Flags) : List Char → Spot → Option Spot
  | [], s => some s
  | c :: cs, s =>
    match s.next? with
    | some (d, s) => if repeats flags c d then after? flags cs s else none
    | none => none

end Spot

/-- What follows a pattern: it takes the place that the pattern reached and may refuse it. -/
abbrev Continuation := Spot → Option Spot

/-- A pattern at a place, followed by a continuation. -/
abbrev Attempt := Spot → Continuation → Option Spot

/-! ## Repetition -/

/-- Matches exactly `count` times. -/
def exactly (body : Attempt) : Nat → Attempt
  | 0, s, k => k s
  | count + 1, s, k => body s fun t => exactly body count t k

/-- Matches as often as possible, up to the fuel. After a repetition that matched no characters
there is no further one. -/
def greedily (body : Attempt) : Nat → Option Nat → Attempt
  | 0, _, s, k => k s
  | fuel + 1, last, s, k =>
    if last = some s.after.length then k s
    else (body s fun t => greedily body fuel (some s.after.length) t k).orElse fun _ => k s

/-- Matches as rarely as possible, up to the fuel. -/
def lazily (body : Attempt) : Nat → Option Nat → Attempt
  | 0, _, s, k => k s
  | fuel + 1, last, s, k =>
    (k s).orElse fun _ =>
      if last = some s.after.length then none
      else body s fun t => lazily body fuel (some s.after.length) t k

/-- How many repetitions can follow the least number of them. -/
def furtherCount (least : Nat) (most : Option Nat) (s : Spot) : Nat :=
  let possible := s.after.length + 2
  match most with
  | some n => min (n - least) possible
  | none => possible

/-- Matches repeatedly. -/
def repeatedly (body : Attempt) (greed : Greed) (least : Nat) (most : Option Nat) : Attempt :=
  fun s k =>
    match greed with
    | .greedy =>
      exactly body least s fun t => greedily body (furtherCount least most t) none t k
    | .lazy => exactly body least s fun t => lazily body (furtherCount least most t) none t k
    | .possessive =>
      match exactly body least s fun t =>
        greedily body (furtherCount least most t) none t some with
      | some t => k t
      | none => none

/-! ## Patterns -/

/-- Runs a pattern at a place. -/
def Node.tries : Node → Attempt
  | .empty, s, k => k s
  | .oneOf flags negated items, s, k =>
    match s.next? with
    | some (c, t) => if inSet flags items c != negated then k t else none
    | none => none
  | .any flags, s, k =>
    match s.next? with
    | some (c, t) => if c ≠ '\n' || flags.dotAll then k t else none
    | none => none
  | .place flags anchor, s, k => if s.isAt flags anchor then k s else none
  | .seq a b, s, k => a.tries s fun t => b.tries t k
  | .alt a b, s, k => (a.tries s k).orElse fun _ => b.tries s k
  | .group number body, s, k => body.tries s fun t => k (t.keep number s)
  | .repetition greed least most body, s, k =>
    repeatedly (fun s k => body.tries s k) greed least most s k
  | .reference flags number _, s, k =>
    match s.group? number with
    | some cs =>
      match s.after? flags cs with
      | some t => k t
      | none => none
    | none => none
  | .conditional number yes no, s, k =>
    if (s.group? number).isSome then yes.tries s k else no.tries s k
  | .ahead false body, s, k =>
    match body.tries s some with
    | some t => k { s with groups := t.groups }
    | none => none
  | .ahead true body, s, k => if (body.tries s some).isSome then none else k s
  | .behind false body, s, k =>
    match s.back? body.width.least with
    | some b =>
      match body.tries b some with
      | some t => k { s with groups := t.groups }
      | none => none
    | none => none
  | .behind true body, s, k =>
    match s.back? body.width.least with
    | some b => if (body.tries b some).isSome then none else k s
    | none => k s
  | .atomic body, s, k =>
    match body.tries s some with
    | some t => k t
    | none => none

/-- Whether a pattern matches somewhere from a place on. -/
def occursFrom (node : Node) (before : List Char) : List Char → Bool
  | [] => (node.tries ⟨before, [], []⟩ some).isSome
  | c :: rest =>
    (node.tries ⟨before, c :: rest, []⟩ some).isSome || occursFrom node (c :: before) rest

/-- Whether a pattern matches somewhere in a text. -/
def occursIn (node : Node) (cs : List Char) : Bool := occursFrom node [] cs

end MessageRouting.Pattern
