/-!
# Bytes as characters

An octet text is a text whose characters are all below 256; each of them stands for one byte. File
names and the texts of a shell are octet texts, because they can hold any bytes, and because their
lengths and patterns count bytes.
-/

namespace CallScript.Octets

def ofByte (byte : UInt8) : Char := Char.ofNat byte.toNat

/-- The byte of a character. Of a character from 256 on only the rest is left. -/
def toByte (c : Char) : UInt8 := UInt8.ofNat c.toNat

theorem toByte_ofByte (byte : UInt8) : toByte (ofByte byte) = byte := by
  have valid : byte.toNat.isValidChar := Or.inl (by have := byte.toNat_lt; omega)
  rw [ofByte, Char.ofNat, dif_pos valid]
  exact UInt8.ofNat_toNat

def toBytes (text : String) : ByteArray := ⟨(text.toList.map toByte).toArray⟩

def ofBytes (bytes : ByteArray) : String := String.ofList (bytes.data.toList.map ofByte)

theorem toBytes_ofBytes (bytes : ByteArray) : toBytes (ofBytes bytes) = bytes := by
  have same : toByte ∘ ofByte = id := funext toByte_ofByte
  simp [toBytes, ofBytes, same]

def ofText (text : String) : String := ofBytes text.toUTF8

def toText? (octets : String) : Option String := String.fromUTF8? (toBytes octets)

end CallScript.Octets
