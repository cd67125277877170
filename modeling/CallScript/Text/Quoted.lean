import CallScript.Text.GraphemeExtend
import CallScript.Text.Lossy
import CallScript.Text.Unprintable

/-!
# Quoted text

A text is written between double quotes, character by character, as an escape rule says. Three
rules are in use:

* `codePointEscape plain` writes by code point every character that `plain` refuses; `quote` uses it
  with the characters that have a glyph of their own;
* `byteEscape` writes the ASCII controls by two hexadecimal digits and leaves all else alone;
* `mixedEscape plain` goes by bytes within ASCII, where it hides the single quote too, and by code
  points outside.

All rules write a quote and a backslash behind a backslash, so the closing quote is the first one
that no backslash hides. Octets are quoted by their characters, and a byte that belongs to none is
written by two hexadecimal digits.
-/

namespace CallScript.Text

/-- Lower-case hexadecimal digits, the most significant first, without leading zeros. -/
def hexDigits (n : Nat) : List Char := Nat.toDigits 16 n

def quoteWith (escape : Char → List Char) (text : List Char) : List Char :=
  '"' :: (text.flatMap escape ++ ['"'])

/-- Escapes by code point: a character that `plain` refuses and that has no short escape is written
`\u` with its code point in braces. -/
def codePointEscape (plain : Char → Bool) (c : Char) : List Char :=
  if c = '"' then ['\\', '"']
  else if c = '\\' then ['\\', '\\']
  else if c = '\t' then ['\\', 't']
  else if c = '\r' then ['\\', 'r']
  else if c = '\n' then ['\\', 'n']
  else if c = '\x00' then ['\\', '0']
  else if plain c then [c]
  else '\\' :: 'u' :: '\x7b' :: (hexDigits c.toNat ++ ['\x7d'])

def isAsciiControl (c : Char) : Bool := c.toNat < 0x20 || c.toNat = 0x7f

def twoHexDigits (n : Nat) : List Char := [Nat.digitChar (n / 16), Nat.digitChar (n % 16)]

/-- Escapes by byte: only quote, backslash and the ASCII controls are written otherwise than as
themselves. -/
def byteEscape (c : Char) : List Char :=
  if c = '"' then ['\\', '"']
  else if c = '\\' then ['\\', '\\']
  else if c = '\n' then ['\\', 'n']
  else if c = '\r' then ['\\', 'r']
  else if c = '\t' then ['\\', 't']
  else if isAsciiControl c then '\\' :: 'x' :: twoHexDigits c.toNat
  else [c]

/-- Escapes ASCII by bytes, where a single quote is hidden like a double one, and what is outside of
ASCII by code point. -/
def mixedEscape (plain : Char → Bool) (c : Char) : List Char :=
  if c = '\x27' then ['\\', '\x27']
  else if c = '\x00' then ['\\', '0']
  else if c.toNat < 0x80 then byteEscape c
  else codePointEscape plain c

/-- A character with a glyph of its own, which may stand in quoted text as itself. -/
def standsAlone (c : Char) : Bool := !extendsGrapheme c && !isUnprintable c

/-- Quotes a text by code points; `plain` says which characters stand as themselves. -/
def quoteBy (plain : Char → Bool) (text : String) : String :=
  String.ofList (quoteWith (codePointEscape plain) text.toList)

def quote (text : String) : String := quoteBy standsAlone text

/-- Quotes octets; `digits` writes a byte that belongs to no character. -/
def quoteOctetsWith (escape : Char → List Char) (digits : Nat → List Char) (octets : String) :
    String :=
  let part : List UInt8 ⊕ Char → List Char
    | .inl broken => broken.flatMap fun byte => '\\' :: 'x' :: digits byte.toNat
    | .inr c => escape c
  String.ofList ('"' :: ((parts (Octets.toBytes octets).toList).flatMap part ++ ['"']))

def quoteOctets (octets : String) : String :=
  quoteOctetsWith (codePointEscape standsAlone) (fun n => (twoHexDigits n).map Char.toUpper) octets

def quoteMixed (octets : String) : String :=
  quoteOctetsWith (mixedEscape standsAlone) twoHexDigits octets

/-- Quotes a text by bytes: no control character is left, and all other characters stay. -/
def quoteBytes (text : String) : String :=
  String.ofList (quoteWith byteEscape text.toList)

end CallScript.Text
