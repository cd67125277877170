import CallScript.Text.CodeRange

/-!
# White space

The characters that stand for nothing but a distance, in all scripts.
-/

namespace CallScript.Text

def whiteSpaceRanges : List CodeRange :=
  [⟨0x9, 0xd⟩, ⟨0x20, 0x20⟩, ⟨0x85, 0x85⟩, ⟨0xa0, 0xa0⟩, ⟨0x1680, 0x1680⟩, ⟨0x2000, 0x200a⟩,
    ⟨0x2028, 0x2029⟩, ⟨0x202f, 0x202f⟩, ⟨0x205f, 0x205f⟩, ⟨0x3000, 0x3000⟩]

theorem whiteSpaceRanges_ascending : Ascending whiteSpaceRanges := by decide +kernel

def isWhiteSpace (c : Char) : Bool := covers whiteSpaceRanges c.toNat

def trim (text : List Char) : List Char :=
  ((text.dropWhile isWhiteSpace).reverse.dropWhile isWhiteSpace).reverse

end CallScript.Text
