import GraphCommit.Text.Ranges

/-!
# Characters of names

Which characters may begin a name, and which may follow, in Turtle, in queries and in XML.
-/

namespace GraphCommit.Turtle

/-- The characters beyond ASCII that may begin a name. -/
def beginsBeyondAscii : Text.Ranges := ⟨
  [(0xC0, 0xD6), (0xD8, 0xF6), (0xF8, 0x2FF), (0x370, 0x37D), (0x37F, 0x1FFF), (0x200C, 0x200D),
   (0x2070, 0x218F), (0x2C00, 0x2FEF), (0x3001, 0xD7FF), (0xF900, 0xFDCF), (0xFDF0, 0xFFFD),
   (0x10000, 0xEFFFF)]⟩

/-- The characters beyond ASCII that may follow in a name but not begin it. -/
def followsBeyondAscii : Text.Ranges := ⟨[(0xB7, 0xB7), (0x300, 0x36F), (0x203F, 0x2040)]⟩

/-- A letter, in ASCII or beyond. -/
def isLetter (c : Char) : Bool := c.isAlpha || beginsBeyondAscii.contains c

/-- A letter or an underscore. -/
def isNameStart (c : Char) : Bool := isLetter c || c == '_'

/-- A character that may stand inside a name; a dot may too, but not at the end. -/
def isNameInner (c : Char) : Bool :=
  isNameStart c || c == '-' || c.isDigit || followsBeyondAscii.contains c

/-- A character of the name of a variable. -/
def isVariable (c : Char) : Bool := isNameInner c && c != '-'

def isBlank (c : Char) : Bool := c == ' ' || c == '\t' || c == '\r' || c == '\n'

end GraphCommit.Turtle
