import CallScript.Shell.Quantity

/-!
# Digests

Sums over the bytes of a file. Words are natural numbers below a power of two; bytes are natural
numbers below 256.

The constants of the sums of the second family are the first bits behind the point of square and
cube roots of primes.
-/

namespace CallScript.Shell.Digest

def wordCount (bits : Nat) : Nat := Quantity.powerOf 2 bits

/-- A word with its bits moved up; those that fall out come in from below. -/
def rotateUp (bits count word : Nat) : Nat :=
  (word <<< count) % wordCount bits ||| word >>> (bits - count)

/-- A word with its bits moved down; those that fall out come in from above. -/
def rotateDown (bits count word : Nat) : Nat := rotateUp bits (bits - count) word

def complement (bits word : Nat) : Nat := wordCount bits - 1 - word

def lowBytes : Nat → Nat → List Nat
  | 0, _ => []
  | count + 1, n => n % 256 :: lowBytes count (n / 256)

def highBytes (count n : Nat) : List Nat := (lowBytes count n).reverse

def ofHighBytes (bytes : List Nat) : Nat := bytes.foldl (fun n byte => n * 256 + byte) 0

def ofLowBytes (bytes : List Nat) : Nat := ofHighBytes bytes.reverse

theorem lowBytes_length (count n : Nat) : (lowBytes count n).length = count := by
  induction count generalizing n with
  | zero => rfl
  | succ count ih => simp [lowBytes, ih]

def chunks (size : Nat) : Nat → List Nat → List (List Nat)
  | 0, _ => []
  | _, [] => []
  | fuel + 1, bytes => bytes.take size :: chunks size fuel (bytes.drop size)

/-- A text with a mark, zeros and its length in bits behind it, which fill up its last block. -/
def padded (block lengthSize : Nat) (lengthBytes : Nat → Nat → List Nat) (bytes : List Nat) :
    List Nat :=
  let used := (bytes.length + 1 + lengthSize) % block
  let zeros := List.replicate ((block - used) % block) 0
  bytes ++ 128 :: zeros ++ lengthBytes lengthSize (8 * bytes.length)

def addWords (bits : Nat) (a b : List Nat) : List Nat :=
  (a.zip b).map fun (a, b) => (a + b) % wordCount bits

def hexDigit (n : Nat) : Char := Nat.digitChar n

def hexText (bytes : List Nat) : String :=
  String.ofList (bytes.flatMap fun byte => [hexDigit (byte / 16), hexDigit (byte % 16)])

/-! ## The cyclic sum -/

def crcBit (sum : Nat) : Nat :=
  let moved := sum * 2 % wordCount 32
  if sum ≥ 0x80000000 then moved ^^^ 0x04c11db7 else moved

def crcByte (sum byte : Nat) : Nat :=
  (List.range 8).foldl (fun sum _ => crcBit sum) (sum ^^^ byte <<< 24)

def lengthBytes (length : Nat) : List Nat :=
  if length = 0 then [] else length % 256 :: lengthBytes (length / 256)
termination_by length
decreasing_by omega

def crc (bytes : List Nat) : Nat :=
  complement 32 ((bytes ++ lengthBytes bytes.length).foldl crcByte 0)

def turnedSum (bytes : List Nat) : Nat :=
  bytes.foldl (fun sum byte => (sum / 2 + sum % 2 * 0x8000 + byte) % 0x10000) 0

def plainSum (bytes : List Nat) : Nat :=
  let total := bytes.foldl (· + ·) 0 % wordCount 32
  let folded := total % 0x10000 + total / 0x10000
  folded % 0x10000 + folded / 0x10000

/-! ## The fifth message digest -/

def md5Turns : List Nat :=
  [[7, 12, 17, 22], [5, 9, 14, 20], [4, 11, 16, 23], [6, 10, 15, 21]].flatMap fun turns =>
    turns ++ turns ++ turns ++ turns

/-- The bits behind the point of the sines of the natural numbers. -/
def md5Constants : List Nat :=
  [0xd76aa478, 0xe8c7b756, 0x242070db, 0xc1bdceee, 0xf57c0faf, 0x4787c62a, 0xa8304613, 0xfd469501,
    0x698098d8, 0x8b44f7af, 0xffff5bb1, 0x895cd7be, 0x6b901122, 0xfd987193, 0xa679438e, 0x49b40821,
    0xf61e2562, 0xc040b340, 0x265e5a51, 0xe9b6c7aa, 0xd62f105d, 0x02441453, 0xd8a1e681, 0xe7d3fbc8,
    0x21e1cde6, 0xc33707d6, 0xf4d50d87, 0x455a14ed, 0xa9e3e905, 0xfcefa3f8, 0x676f02d9, 0x8d2a4c8a,
    0xfffa3942, 0x8771f681, 0x6d9d6122, 0xfde5380c, 0xa4beea44, 0x4bdecfa9, 0xf6bb4b60, 0xbebfbc70,
    0x289b7ec6, 0xeaa127fa, 0xd4ef3085, 0x04881d05, 0xd9d4d039, 0xe6db99e5, 0x1fa27cf8, 0xc4ac5665,
    0xf4292244, 0x432aff97, 0xab9423a7, 0xfc93a039, 0x655b59c3, 0x8f0ccc92, 0xffeff47d, 0x85845dd1,
    0x6fa87e4f, 0xfe2ce6e0, 0xa3014314, 0x4e0811a1, 0xf7537e82, 0xbd3af235, 0x2ad7d2bb, 0xeb86d391]

def md5Step (block : Array Nat) (words : List Nat) (step : Nat × Nat × Nat) : List Nat :=
  let (index, turn, constant) := step
  match words with
  | [a, b, c, d] =>
      let (mixed, place) : Nat × Nat :=
        if index < 16 then ((b &&& c) ||| (complement 32 b &&& d), index)
        else if index < 32 then ((d &&& b) ||| (complement 32 d &&& c), (5 * index + 1) % 16)
        else if index < 48 then (b ^^^ c ^^^ d, (3 * index + 5) % 16)
        else (c ^^^ (b ||| complement 32 d), 7 * index % 16)
      let sum := (mixed + a + constant + block.getD place 0) % wordCount 32
      [d, (b + rotateUp 32 turn sum) % wordCount 32, b, c]
  | _ => words

def md5 (bytes : List Nat) : List Nat :=
  let text := padded 64 8 lowBytes bytes
  let steps := (List.range 64).zip (md5Turns.zip md5Constants)
  let words := (chunks 64 text.length text).foldl
    (fun words block =>
      let block := ((chunks 4 16 block).map ofLowBytes).toArray
      addWords 32 words (steps.foldl (md5Step block) words))
    [0x67452301, 0xefcdab89, 0x98badcfe, 0x10325476]
  words.flatMap (lowBytes 4)

/-! ## The first secure hash -/

def sha1Words (block : List Nat) : Array Nat :=
  (List.range 64).foldl
    (fun words n =>
      let word (back : Nat) : Nat := words.getD (n + 16 - back) 0
      words.push (rotateUp 32 1 (word 3 ^^^ word 8 ^^^ word 14 ^^^ word 16)))
    block.toArray

def sha1Step (block : Array Nat) (words : List Nat) (index : Nat) : List Nat :=
  match words with
  | [a, b, c, d, e] =>
      let (mixed, constant) : Nat × Nat :=
        if index < 20 then ((b &&& c) ||| (complement 32 b &&& d), 0x5a827999)
        else if index < 40 then (b ^^^ c ^^^ d, 0x6ed9eba1)
        else if index < 60 then ((b &&& c) ||| (b &&& d) ||| (c &&& d), 0x8f1bbcdc)
        else (b ^^^ c ^^^ d, 0xca62c1d6)
      let sum := rotateUp 32 5 a + mixed + e + constant + block.getD index 0
      [sum % wordCount 32, a, rotateUp 32 30 b, c, d]
  | _ => words

def sha1 (bytes : List Nat) : List Nat :=
  let text := padded 64 8 highBytes bytes
  let words := (chunks 64 text.length text).foldl
    (fun words block =>
      let block := sha1Words ((chunks 4 16 block).map ofHighBytes)
      addWords 32 words ((List.range 80).foldl (sha1Step block) words))
    [0x67452301, 0xefcdab89, 0x98badcfe, 0x10325476, 0xc3d2e1f0]
  words.flatMap (highBytes 4)

/-! ## The second secure hashes -/

/-- The greatest number of so many bits whose power is not above another number. -/
def rootBelow (power : Nat → Nat) (bits target : Nat) : Nat :=
  (List.range bits).reverse.foldl
    (fun root bit =>
      let next := root + Quantity.powerOf 2 bit
      if power next ≤ target then next else root)
    0

def rootBits (degree bits n : Nat) : Nat :=
  let target := n * Quantity.powerOf 2 (degree * bits)
  rootBelow (fun root => Quantity.powerOf root degree) (bits + 10) target % wordCount bits

def primesBelow (limit : Nat) : List Nat :=
  (List.range limit).filter fun n =>
    2 ≤ n && (List.range n).all fun m => m < 2 || n % m ≠ 0

/-- How words are mixed: three turns each for the two sums over words and the two over blocks, of
which the last only moves the bits out in the sums over blocks. -/
structure Mixing where
  bits : Nat
  rounds : Nat
  upper : Nat × Nat × Nat
  lower : Nat × Nat × Nat
  early : Nat × Nat × Nat
  late : Nat × Nat × Nat

def mixing32 : Mixing :=
  ⟨32, 64, (2, 13, 22), (6, 11, 25), (7, 18, 3), (17, 19, 10)⟩

def mixing64 : Mixing :=
  ⟨64, 80, (28, 34, 39), (14, 18, 41), (1, 8, 7), (19, 61, 6)⟩

namespace Mixing

def turned (mixing : Mixing) (turns : Nat × Nat × Nat) (word : Nat) : Nat :=
  rotateDown mixing.bits turns.1 word ^^^ rotateDown mixing.bits turns.2.1 word ^^^
    rotateDown mixing.bits turns.2.2 word

def moved (mixing : Mixing) (turns : Nat × Nat × Nat) (word : Nat) : Nat :=
  rotateDown mixing.bits turns.1 word ^^^ rotateDown mixing.bits turns.2.1 word ^^^
    word >>> turns.2.2

def words (mixing : Mixing) (block : List Nat) : Array Nat :=
  (List.range (mixing.rounds - 16)).foldl
    (fun words n =>
      let word (back : Nat) : Nat := words.getD (n + 16 - back) 0
      words.push ((mixing.moved mixing.late (word 2) + word 7 +
        mixing.moved mixing.early (word 15) + word 16) % wordCount mixing.bits))
    block.toArray

def step (mixing : Mixing) (words : List Nat) (constant : Nat) : List Nat :=
  match words with
  | [a, b, c, d, e, f, g, h] =>
      let choice := (e &&& f) ^^^ (complement mixing.bits e &&& g)
      let first := h + mixing.turned mixing.lower e + choice + constant
      let majority := (a &&& b) ^^^ (a &&& c) ^^^ (b &&& c)
      let second := mixing.turned mixing.upper a + majority
      [(first + second) % wordCount mixing.bits, a, b, c, (d + first) % wordCount mixing.bits, e, f,
        g]
  | _ => words

def digest (mixing : Mixing) (start : List Nat) (bytes : List Nat) : List Nat :=
  let size := mixing.bits / 8
  let text := padded (16 * size) (2 * size) highBytes bytes
  let constants := ((primesBelow 410).take mixing.rounds).map (rootBits 3 mixing.bits)
  let words := (chunks (16 * size) text.length text).foldl
    (fun words block =>
      let block := mixing.words ((chunks size 16 block).map ofHighBytes)
      let steps := constants.zip block.toList
      addWords mixing.bits words
        (steps.foldl (fun words (constant, word) => mixing.step words (constant + word)) words))
    start
  words.flatMap (highBytes size)

end Mixing

def firstPrimes : List Nat := (primesBelow 20).take 8

def nextPrimes : List Nat := ((primesBelow 60).drop 8).take 8

def sha256 (bytes : List Nat) : List Nat :=
  mixing32.digest (firstPrimes.map (rootBits 2 32)) bytes

/-- Like the digest of 256 bits, from the second halves of 64 bits of other roots. -/
def sha224 (bytes : List Nat) : List Nat :=
  (mixing32.digest (nextPrimes.map fun n => rootBits 2 64 n % wordCount 32) bytes).take 28

def sha512 (bytes : List Nat) : List Nat :=
  mixing64.digest (firstPrimes.map (rootBits 2 64)) bytes

def sha384 (bytes : List Nat) : List Nat :=
  (mixing64.digest (nextPrimes.map (rootBits 2 64)) bytes).take 48

/-! ## Texts in printable letters -/

def letters64 : List Char :=
  (List.range 26).map (fun n => Char.ofNat (n + 65)) ++
    (List.range 26).map (fun n => Char.ofNat (n + 97)) ++
    (List.range 10).map (fun n => Char.ofNat (n + 48)) ++ ['+', '/']

def encode64 (bytes : List Nat) : List Char :=
  (chunks 3 bytes.length bytes).flatMap fun chunk =>
    let word := ofHighBytes (chunk ++ List.replicate (3 - chunk.length) 0)
    let letter (place : Nat) : Char := letters64.getD (word >>> (6 * place) % 64) 'A'
    let written := [letter 3, letter 2, letter 1, letter 0]
    written.take (chunk.length + 1) ++ List.replicate (3 - chunk.length) '='

def decode64 : Nat → List Char → List Nat × Bool
  | 0, _ => ([], true)
  | _, [] => ([], true)
  | fuel + 1, text =>
      let group := text.take 4
      let marks := (group.reverse.takeWhile (· = '=')).length
      let letters := (group.take (4 - marks)).takeWhile fun c => letters64.contains c
      let values := letters.filterMap fun c => letters64.idxOf? c
      let word := (values ++ List.replicate (4 - values.length) 0).foldl
        (fun n value => n * 64 + value) 0
      let bytes := (highBytes 3 word).take (values.length - 1)
      if group.length < 4 || marks > 2 || values.length + marks < 4 then (bytes, false)
      else
        let (others, isRight) := decode64 fuel (text.drop 4)
        (bytes ++ others, isRight)

end CallScript.Shell.Digest
