import GraphCommit.Text.Ranges

/-!
# White space

The characters with the Unicode property `White_Space`, and texts without them at either end.
-/

namespace GraphCommit.Text

/-- The characters with the Unicode property `White_Space`. -/
def whiteSpace : Ranges := ⟨
  [(0x9, 0xD), (0x20, 0x20), (0x85, 0x85), (0xA0, 0xA0), (0x1680, 0x1680), (0x2000, 0x200A),
   (0x2028, 0x2029), (0x202F, 0x202F), (0x205F, 0x205F), (0x3000, 0x3000)]⟩

def isWhiteSpace (c : Char) : Bool := whiteSpace.contains c

/-- The text without the white space at its beginning and at its end. -/
def trim (text : List Char) : List Char :=
  ((text.dropWhile isWhiteSpace).reverse.dropWhile isWhiteSpace).reverse

end GraphCommit.Text
