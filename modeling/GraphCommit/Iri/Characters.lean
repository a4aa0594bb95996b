import GraphCommit.Text.Hex
import GraphCommit.Text.Ranges

/-!
# Characters of IRIs

The classes of RFC 3987: the characters that stand for themselves anywhere, those that are allowed
in a part of an IRI, and percent-encoded bytes.
-/

namespace GraphCommit.Iri

/-- The characters beyond ASCII that stand for themselves. -/
def beyondAscii : Text.Ranges := ⟨
  [(0xA0, 0xD7FF), (0xF900, 0xFDCF), (0xFDF0, 0xFFEF), (0x10000, 0x1FFFD), (0x20000, 0x2FFFD),
   (0x30000, 0x3FFFD), (0x40000, 0x4FFFD), (0x50000, 0x5FFFD), (0x60000, 0x6FFFD),
   (0x70000, 0x7FFFD), (0x80000, 0x8FFFD), (0x90000, 0x9FFFD), (0xA0000, 0xAFFFD),
   (0xB0000, 0xBFFFD), (0xC0000, 0xCFFFD), (0xD0000, 0xDFFFD), (0xE1000, 0xEFFFD)]⟩

/-- The characters of the private use areas, which only a query may hold. -/
def privateUse : Text.Ranges := ⟨[(0xE000, 0xF8FF), (0xF0000, 0xFFFFD), (0x100000, 0x10FFFD)]⟩

/-- The unreserved characters of ASCII. -/
def isUnreservedAscii (c : Char) : Bool :=
  c.isAlphanum || c == '-' || c == '.' || c == '_' || c == '~'

def isUnreserved (c : Char) : Bool := isUnreservedAscii c || beyondAscii.contains c

def isSubDelimiter (c : Char) : Bool := "!$&'()*+,;=".toList.contains c

def isUserInfo (c : Char) : Bool := isUnreserved c || isSubDelimiter c || c == ':'

def isRegisteredName (c : Char) : Bool := isUnreserved c || isSubDelimiter c

def isPath (c : Char) : Bool :=
  isUnreserved c || isSubDelimiter c || c == ':' || c == '@' || c == '/'

def isQuery (c : Char) : Bool := isPath c || c == '?' || privateUse.contains c

def isFragment (c : Char) : Bool := isPath c || c == '?'

def isSchemeCharacter (c : Char) : Bool := c.isAlphanum || c == '+' || c == '-' || c == '.'

/-- Whether a text holds allowed characters and percent-encoded bytes only. -/
def allAllowed (allowed : Char → Bool) : List Char → Bool
  | [] => true
  | '%' :: a :: b :: rest =>
    (Text.Hex.value? a).isSome && (Text.Hex.value? b).isSome && allAllowed allowed rest
  | '%' :: _ => false
  | c :: rest => allowed c && allAllowed allowed rest

end GraphCommit.Iri
