import MessageRouting.Text.Printable

/-!
# Quoted text

The two ways in which texts are written inside quotes: `Quoted.json`, where only the quote, the
backslash and control characters are escaped (and, if the output is to be ASCII, all that is not),
and `Quoted.literal`, which chooses its quote and escapes everything that is not printable.
-/

namespace MessageRouting.Text.Quoted

/-- A hexadecimal digit. -/
def hexDigit (d : Nat) : Char := if d < 10 then Char.ofNat (48 + d) else Char.ofNat (87 + d)

/-- The last `width` hexadecimal digits of a number. -/
def hex (width n : Nat) : List Char :=
  match width with
  | 0 => []
  | width + 1 => hex width (n / 16) ++ [hexDigit (n % 16)]

/-- An escape of `\u` and four hexadecimal digits. -/
def unicodeEscape (n : Nat) : List Char := '\\' :: 'u' :: hex 4 n

/-- A character inside a JSON string. -/
def jsonChar (c : Char) : List Char :=
  match c with
  | '"' => ['\\', '"']
  | '\\' => ['\\', '\\']
  | '\n' => ['\\', 'n']
  | '\r' => ['\\', 'r']
  | '\t' => ['\\', 't']
  | '\x08' => ['\\', 'b']
  | '\x0c' => ['\\', 'f']
  | c => if c.toNat < 32 then unicodeEscape c.toNat else [c]

/-- A character inside a JSON string of ASCII characters; beyond the first plane it is written
as two surrogates. -/
def asciiChar (c : Char) : List Char :=
  let n := c.toNat
  if n < 127 then jsonChar c
  else if n < 0x10000 then unicodeEscape n
  else
    let m := n - 0x10000
    unicodeEscape (0xD800 + m / 1024) ++ unicodeEscape (0xDC00 + m % 1024)

/-- A JSON string. -/
def json (cs : List Char) : List Char := '"' :: (cs.flatMap jsonChar ++ ['"'])

/-- A JSON string of ASCII characters. -/
def jsonAscii (cs : List Char) : List Char := '"' :: (cs.flatMap asciiChar ++ ['"'])

/-- A character inside a literal with the given quote. -/
def literalChar (quote c : Char) : List Char :=
  if c = quote || c = '\\' then ['\\', c]
  else
    match c with
    | '\n' => ['\\', 'n']
    | '\r' => ['\\', 'r']
    | '\t' => ['\\', 't']
    | c =>
      if isPrintable c then [c]
      else if c.toNat < 0x100 then '\\' :: 'x' :: hex 2 c.toNat
      else if c.toNat < 0x10000 then unicodeEscape c.toNat
      else '\\' :: 'U' :: hex 8 c.toNat

/-- The quote of a literal: the double one if the text holds the single one alone. -/
def quoteFor (cs : List Char) : Char :=
  if cs.contains '\'' && !cs.contains '"' then '"' else '\''

/-- A byte inside a literal with the given quote. -/
def literalByte (quote : Char) (b : UInt8) : List Char :=
  let c := Char.ofNat b.toNat
  if b < 128 then literalChar quote c else '\\' :: 'x' :: hex 2 b.toNat

/-- A literal of bytes. -/
def literalBytes (data : List UInt8) : List Char :=
  let quote := quoteFor (data.map fun b => Char.ofNat b.toNat)
  'b' :: quote :: (data.flatMap (literalByte quote) ++ [quote])

/-- A text literal. -/
def literal (cs : List Char) : List Char :=
  let quote := quoteFor cs
  quote :: (cs.flatMap (literalChar quote) ++ [quote])

end MessageRouting.Text.Quoted
