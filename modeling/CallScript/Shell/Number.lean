/-!
# Numbers in texts

Integers of 64 bits, as scripts spell them: in decimal, or in the base that the front of the number
tells.
-/

namespace CallScript.Shell.Number

def isSpace (c : Char) : Bool := [' ', '\t', '\n', '\x0b', '\x0c', '\x0d'].contains c

def digitOf? (base : Nat) (c : Char) : Option Nat :=
  let digit := if c.isDigit then c.toNat - 48 else c.toLower.toNat - 87
  if (c.isDigit || ('a' ≤ c.toLower && c.toLower ≤ 'f')) && digit < base then some digit else none

def ofDigits (base : Nat) (digits : List Char) : Nat :=
  digits.foldl (fun value c => base * value + (digitOf? base c).getD 0) 0

def splitDigits (base : Nat) (text : List Char) : Nat × List Char :=
  let digits := text.takeWhile fun c => (digitOf? base c).isSome
  (ofDigits base digits, text.drop digits.length)

/-- A number at the front of a text, in the base that its own front tells, and what is behind it. -/
def splitAnyBase (text : List Char) : Nat × List Char :=
  match text with
  | '0' :: x :: c :: rest =>
      if (x = 'x' || x = 'X') && (digitOf? 16 c).isSome then splitDigits 16 (c :: rest)
      else splitDigits 8 text
  | '0' :: _ => splitDigits 8 text
  | _ => splitDigits 10 text

/-- A sign at the front of a text: whether it is negative, and what is behind it. -/
def splitSign : List Char → Bool × List Char
  | '-' :: rest => (true, rest)
  | '+' :: rest => (false, rest)
  | text => (false, text)

def wordCount : Nat := 0x10000000000000000

def least : Int := -0x8000000000000000

def greatest : Int := 0x7fffffffffffffff

def clamp (n : Int) : Int := max least (min greatest n)

theorem clamp_eq_self {n : Int} (lower : least ≤ n) (upper : n ≤ greatest) : clamp n = n := by
  simp only [clamp]
  omega

/-- The integer that a text spells in decimal, with blanks around it. There is none outside of 64
bits. -/
def decimal? (text : String) : Option Int :=
  let (negative, digits) := splitSign (text.toList.dropWhile isSpace)
  let (size, behind) := splitDigits 10 digits
  let value : Int := if negative then -size else size
  if behind.length < digits.length && behind.all isSpace && clamp value = value then some value
  else none

/-- The natural number of 31 bits that a text spells in decimal, with blanks around it. -/
def small? (text : String) : Option Nat :=
  (decimal? text).bind fun n => if 0 ≤ n && n < 0x80000000 then some n.toNat else none

def natural? (text : List Char) : Option Nat :=
  if !text.isEmpty && text.all Char.isDigit then some (ofDigits 10 text) else none

end CallScript.Shell.Number
