/-!
# Blank characters

Two sets of white space: `Text.isBlank` is what patterns and trimming of messages take for blank,
the separators U+001C to U+001F among them; `Text.isSpacing` is the Unicode property `White_Space`,
which leaves these four out.
-/

namespace MessageRouting.Text

/-- The Unicode property `White_Space`. -/
def isSpacing (c : Char) : Bool :=
  let n := c.toNat
  9 ≤ n && n ≤ 13 || n = 32 || n = 133 || n = 160 || n = 5760 || 8192 ≤ n && n ≤ 8202 ||
    n = 8232 || n = 8233 || n = 8239 || n = 8287 || n = 12288

/-- White space or one of the four information separators. -/
def isBlank (c : Char) : Bool := isSpacing c || 28 ≤ c.toNat && c.toNat ≤ 31

/-- Drops characters of a kind at both ends. -/
def trimBy (p : Char → Bool) (cs : List Char) : List Char :=
  ((cs.dropWhile p).reverse.dropWhile p).reverse

/-- Drops blanks at both ends. -/
def trim (cs : List Char) : List Char := trimBy isBlank cs

end MessageRouting.Text
