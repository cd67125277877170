import CallScript.Text.Octets

/-!
# Bytes as text

Bytes that need not be UTF-8 are taken apart into characters and sequences that are broken. A
sequence that breaks off goes up to the byte that does not go on with it. Decoding puts one
replacement character in place of each broken sequence.
-/

namespace CallScript.Text

def replacement : Char := '\ufffd'

def sequenceOf? (lead : Nat) : Option (Nat × Nat × Nat) :=
  if 0xc2 ≤ lead && lead ≤ 0xdf then some (1, 0x80, 0xbf)
  else if lead = 0xe0 then some (2, 0xa0, 0xbf)
  else if lead = 0xed then some (2, 0x80, 0x9f)
  else if 0xe1 ≤ lead && lead ≤ 0xef then some (2, 0x80, 0xbf)
  else if lead = 0xf0 then some (3, 0x90, 0xbf)
  else if 0xf1 ≤ lead && lead ≤ 0xf3 then some (3, 0x80, 0xbf)
  else if lead = 0xf4 then some (3, 0x80, 0x8f)
  else none

/-- The bytes at the front that go on with a sequence; only the first of them has its own bounds. -/
def continuation : Nat → Nat → Nat → List UInt8 → List UInt8
  | 0, _, _, _ | _, _, _, [] => []
  | count + 1, low, high, byte :: rest =>
      if low ≤ byte.toNat && byte.toNat ≤ high then
        byte :: continuation count 0x80 0xbf rest
      else []

def sequenceChar (lead : Nat) (behind : List UInt8) : Char :=
  let first := lead % Nat.shiftLeft 1 (6 - behind.length)
  Char.ofNat (behind.foldl (fun value byte => 64 * value + (byte.toNat - 0x80)) first)

/-- The characters of bytes, and the broken sequences between them. -/
def parts : List UInt8 → List (List UInt8 ⊕ Char)
  | [] => []
  | byte :: rest =>
      if byte.toNat < 0x80 then .inr (Char.ofNat byte.toNat) :: parts rest
      else
        match sequenceOf? byte.toNat with
        | none => .inl [byte] :: parts rest
        | some (count, low, high) =>
            let behind := continuation count low high rest
            let part := if behind.length = count then .inr (sequenceChar byte.toNat behind)
              else .inl (byte :: behind)
            part :: parts (rest.drop behind.length)
termination_by bytes => bytes.length

def decodeBytes (bytes : List UInt8) : List Char :=
  (parts bytes).map (Sum.elim (fun _ => replacement) id)

def decodeLossy (content : ByteArray) : String :=
  match String.fromUTF8? content with
  | some text => text
  | none => String.ofList (decodeBytes content.toList)

end CallScript.Text

namespace CallScript.Octets

/-- The text that is shown of octets. -/
def shown (octets : String) : String := Text.decodeLossy (toBytes octets)

end CallScript.Octets
