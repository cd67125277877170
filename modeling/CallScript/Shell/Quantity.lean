import CallScript.Shell.Number

/-!
# Numbers with a point

Numbers that scripts spell with a point or an exponent. They are kept as exact quotients, rounded to
the 53 significant bits of a machine number when they are read, and written in three forms: with a
fixed number of places, with an exponent, or in whichever of the two is shorter.
-/

namespace CallScript.Shell

/-- The size of a number. -/
inductive Size where
  | finite (numerator denominator : Nat)
  | infinite
  | undefined
deriving DecidableEq

structure Quantity where
  isNegative : Bool
  size : Size
deriving DecidableEq

/-- The quotient as a whole number, rounded to the nearest; a half goes to the even neighbour. -/
def roundDiv (numerator denominator : Nat) : Nat :=
  let whole := numerator / denominator
  let rest := 2 * (numerator % denominator)
  if rest < denominator || (rest = denominator && whole % 2 = 0) then whole else whole + 1

theorem roundDiv_le (numerator denominator : Nat) :
    2 * (roundDiv numerator denominator * denominator) ≤ 2 * numerator + denominator := by
  have split := Nat.div_add_mod numerator denominator
  rw [Nat.mul_comm denominator] at split
  unfold roundDiv
  dsimp only
  split
  · omega
  · rename_i high
    rw [Nat.add_mul]
    simp only [Bool.or_eq_true, Bool.and_eq_true, decide_eq_true_eq] at high
    omega

theorem le_roundDiv {numerator denominator : Nat} (positive : 0 < denominator) :
    2 * numerator ≤ 2 * (roundDiv numerator denominator * denominator) + denominator := by
  have split := Nat.div_add_mod numerator denominator
  have small := Nat.mod_lt numerator positive
  rw [Nat.mul_comm denominator] at split
  unfold roundDiv
  dsimp only
  split
  · rename_i low
    simp only [Bool.or_eq_true, Bool.and_eq_true, decide_eq_true_eq] at low
    omega
  · rw [Nat.add_mul]
    omega

namespace Quantity

def zero : Quantity := ⟨false, .finite 0 1⟩

def ofNat (n : Nat) : Quantity := ⟨false, .finite n 1⟩

def powerOf (base exponent : Nat) : Nat := Nat.pow base exponent

def scale (base : Nat) (exponent : Int) (numerator denominator : Nat) : Nat × Nat :=
  if 0 ≤ exponent then (numerator * powerOf base exponent.toNat, denominator)
  else (numerator, denominator * powerOf base (-exponent).toNat)

/-! ## Significant bits -/

def bitCount : Nat := 53

/-- The exponent of the last bit of the least numbers. -/
def leastExponent : Int := -1074

/-- Exponents of the last bit of all numbers are below this. -/
def exponentLimit : Int := 972

def binaryExponent (numerator denominator : Nat) : Int :=
  let guess : Int := (numerator.log2 : Int) - denominator.log2
  let (power, one) := scale 2 guess 1 1
  if power * denominator ≤ numerator * one then guess else guess - 1

/-- The nearest number with the significant bits: a whole number, and the exponent of its last
bit. -/
def nearest (numerator denominator : Nat) : Nat × Int :=
  let exponent :=
    max leastExponent (binaryExponent numerator denominator - (bitCount - 1 : Nat))
  let (top, bottom) := scale 2 (-exponent) numerator denominator
  let whole := roundDiv top bottom
  if whole = powerOf 2 bitCount then (whole / 2, exponent + 1) else (whole, exponent)

def rounded (quantity : Quantity) : Quantity :=
  match quantity.size with
  | .finite 0 _ => { quantity with size := .finite 0 1 }
  | .finite numerator denominator =>
      let (whole, exponent) := nearest numerator denominator
      if whole = 0 then { quantity with size := .finite 0 1 }
      else if exponentLimit ≤ exponent then { quantity with size := .infinite }
      else
        let (top, bottom) := scale 2 exponent whole 1
        { quantity with size := .finite top bottom }
  | _ => quantity

/-! ## Reading -/

/-- Digits with a point among them: their value as a whole number, how many stand behind the point
and how many there are, and what is behind them. -/
def splitPointed (base : Nat) (text : List Char) : Nat × Nat × Nat × List Char :=
  let isDigit (c : Char) : Bool := (Number.digitOf? base c).isSome
  let whole := text.takeWhile isDigit
  let behind := text.drop whole.length
  match behind with
  | '.' :: rest =>
      let part := rest.takeWhile isDigit
      if whole.isEmpty && part.isEmpty then (0, 0, 0, text)
      else
        (Number.ofDigits base (whole ++ part), part.length, whole.length + part.length,
          rest.drop part.length)
  | _ => (Number.ofDigits base whole, 0, whole.length, behind)

/-- An exponent behind one of two letters, and what is behind it. Without digits there is none. -/
def splitExponent (letters : List Char) (text : List Char) : Int × List Char :=
  match text with
  | c :: rest =>
      let (isNegative, digits) := Number.splitSign rest
      let (size, behind) := Number.splitDigits 10 digits
      if letters.contains c && behind.length < digits.length then
        (if isNegative then -size else size, behind)
      else (0, text)
  | [] => (0, text)

def farExponent : Int := 100000

def startsWithWord (word : String) (text : List Char) : Bool :=
  word.toList.isPrefixOf (text.map Char.toLower)

def splitSize (text : List Char) : Option (Size × List Char) :=
  let finish (base digitBase : Nat) (letters : List Char) (text : List Char) :
      Option (Size × List Char) :=
    let (value, places, count, behind) := splitPointed digitBase text
    if count = 0 then none
    else
      let (exponent, behind) := splitExponent letters behind
      let width : Int := if base = 2 then 4 else 1
      let exponent := max (-farExponent) (min farExponent exponent) - width * places
      let (top, bottom) := scale base exponent value 1
      some (if value = 0 then .finite 0 1 else .finite top bottom, behind)
  if startsWithWord "infinity" text then some (.infinite, text.drop 8)
  else if startsWithWord "inf" text then some (.infinite, text.drop 3)
  else if startsWithWord "nan" text then some (.undefined, text.drop 3)
  else if startsWithWord "0x" text then
    match finish 2 16 ['p', 'P'] (text.drop 2) with
    | some result => some result
    | none => some (.finite 0 1, text.drop 1)
  else finish 10 10 ['e', 'E'] text

def split? (text : List Char) : Option (Quantity × List Char) := do
  let (isNegative, digits) := Number.splitSign (text.dropWhile Number.isSpace)
  let (size, behind) ← splitSize digits
  return (⟨isNegative, size⟩, behind)

/-! ## Writing -/

def pointed (places value : Nat) (hasPoint : Bool) : List Char :=
  let digits := Nat.toDigits 10 value
  let digits := List.replicate (places + 1 - digits.length) '0' ++ digits
  let whole := digits.take (digits.length - places)
  let point := if places > 0 || hasPoint then ['.'] else []
  whole ++ point ++ digits.drop whole.length

def fixed (places : Nat) (hasPoint : Bool) (numerator denominator : Nat) : List Char :=
  pointed places (roundDiv (numerator * powerOf 10 places) denominator) hasPoint

def decimalExponent (numerator denominator : Nat) : Int :=
  let guess : Int :=
    ((Nat.toDigits 10 numerator).length : Int) - (Nat.toDigits 10 denominator).length
  let (power, one) := scale 10 guess 1 1
  if power * denominator ≤ numerator * one then guess else guess - 1

/-- The digits of a quotient, one in front of the point, and the exponent of ten. -/
def digitsAndExponent (places numerator denominator : Nat) : Nat × Int :=
  if numerator = 0 then (0, 0)
  else
    let exponent := decimalExponent numerator denominator
    let (top, bottom) := scale 10 (places - exponent) numerator denominator
    let digits := roundDiv top bottom
    if digits = powerOf 10 (places + 1) then (digits / 10, exponent + 1) else (digits, exponent)

def exponentText (letter : Char) (exponent : Int) : List Char :=
  let digits := Nat.toDigits 10 exponent.natAbs
  [letter, if exponent < 0 then '-' else '+'] ++
    List.replicate (2 - digits.length) '0' ++ digits

def scientific (places : Nat) (hasPoint : Bool) (numerator denominator : Nat) : List Char :=
  let (digits, exponent) := digitsAndExponent places numerator denominator
  pointed places digits hasPoint ++ exponentText 'e' exponent

def trimZeros (digits : List Char) : List Char :=
  if digits.contains '.' then
    let rest := digits.reverse.dropWhile (· = '0')
    (if rest.head? = some '.' then rest.tail else rest).reverse
  else digits

/-- A quotient with so many significant digits, in the shorter of the two forms. Zeros at the end
are kept where a point is wanted anyway. -/
def general (precision : Nat) (hasPoint : Bool) (numerator denominator : Nat) : List Char :=
  let precision := max 1 precision
  let (digits, exponent) := digitsAndExponent (precision - 1) numerator denominator
  let trim (digits : List Char) : List Char := if hasPoint then digits else trimZeros digits
  if -4 ≤ exponent && exponent < precision then
    trim (fixed ((precision : Int) - 1 - exponent).toNat hasPoint numerator denominator)
  else trim (pointed (precision - 1) digits hasPoint) ++ exponentText 'e' exponent

def digitsOf (form : Char) (precision : Nat) (hasPoint : Bool) : Size → List Char
  | .finite numerator denominator =>
      match form with
      | 'f' => fixed precision hasPoint numerator denominator
      | 'e' => scientific precision hasPoint numerator denominator
      | _ => general precision hasPoint numerator denominator
  | .infinite => "inf".toList
  | .undefined => "nan".toList

end Quantity
end CallScript.Shell
