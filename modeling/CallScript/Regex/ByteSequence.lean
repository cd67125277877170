import CallScript.Regex.CodeSet

/-!
# Byte sequences of ranges of code points

The bytes of all code points in a range, as sequences of ranges of bytes. A range is divided until
the first and the last code point have bytes of which each pair is a range of its own.
-/

namespace CallScript.Regex

def lastOfSize (size : Nat) : Nat :=
  match size with
  | 1 => 0x7f
  | 2 => 0x7ff
  | 3 => 0xffff
  | _ => 0x10ffff

def cutBehind? (code low high : Nat) : Option ((Nat × Nat) × (Nat × Nat)) :=
  if low ≤ code && code < high then some ((low, code), (code + 1, high)) else none

/-- Divides a range so that the last bytes, as many as given, go over all values. -/
def cutUneven? (size low high : Nat) : Option ((Nat × Nat) × (Nat × Nat)) :=
  let block := Nat.pow 64 size
  if low / block = high / block then none
  else if low % block ≠ 0 then
    let last := (low / block + 1) * block - 1
    some ((low, last), (last + 1, high))
  else if high % block ≠ block - 1 then
    let first := high / block * block
    some ((low, first - 1), (first, high))
  else none

/-- The next division of a range. The code points in the middle that are no characters have been
left out before. -/
def divide? (low high : Nat) : Option ((Nat × Nat) × (Nat × Nat)) :=
  [1, 2, 3].findSome? (fun size => cutBehind? (lastOfSize size) low high) <|>
    if high ≤ lastOfSize 1 then none
    else [1, 2, 3].findSome? fun size => cutUneven? size low high

def codeBytes (code : Nat) : List UInt8 := (String.ofList [Char.ofNat code]).toUTF8.toList

def sequencesWithin : Nat → Nat × Nat → List (List (UInt8 × UInt8))
  | 0, _ => []
  | fuel + 1, (low, high) =>
      match divide? low high with
      | none => [(codeBytes low).zip (codeBytes high)]
      | some (first, second) => sequencesWithin fuel first ++ sequencesWithin fuel second

/-- The first and the last code that is no character although characters lie on both sides. -/
def firstGap : Nat := 0xd800

def lastGap : Nat := 0xdfff

def divisionLimit : Nat := 16

/-- The byte sequences of the characters in a set, in the order of the characters. -/
def CodeSet.byteSequences (set : CodeSet) : List (List (UInt8 × UInt8)) :=
  set.flatMap fun (low, high) =>
    let parts := CodeSet.within 0 (firstGap - 1) [(low, high)] ++
      CodeSet.within (lastGap + 1) 0x10ffff [(low, high)]
    parts.flatMap (sequencesWithin divisionLimit)

end CallScript.Regex
