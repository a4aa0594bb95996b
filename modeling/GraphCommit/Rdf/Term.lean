import GraphCommit.Text.Hex

/-!
# Terms, statements and quads

A term is an IRI, a literal or a blank node.  Blank nodes are numbers here; no two that come from
different documents share one.  A statement relates two terms by a predicate, and a quad puts a
statement into a graph: one with a name, or the one without.
-/

namespace GraphCommit

/-- What a literal carries beside its text. -/
inductive LiteralKind where
  | plain
  /-- A language tag in lower case. -/
  | language (tag : String)
  | datatype (iri : String)
  deriving DecidableEq, Repr

/-- A node of a graph. -/
inductive Term where
  | iri (text : String)
  | blank (number : Nat)
  | literal (value : String) (kind : LiteralKind)
  deriving DecidableEq, Repr, Inhabited

/-- A statement of a graph. -/
structure Statement where
  subject : Term
  predicate : Term
  object : Term
  deriving DecidableEq, Repr, Inhabited

/-- A statement in a graph.  The graph without a name is `none`. -/
structure Quad where
  graph : Option String
  statement : Statement
  deriving DecidableEq, Repr, Inhabited

namespace Blank

/-- The digits that every label begins with. -/
def mark : List Char := "b1a7c0de".toList

/-- The last `width` hexadecimal digits of a number. -/
def digits : Nat → Nat → List Char
  | 0, _ => []
  | width + 1, n => digits width (n / 16) ++ ["0123456789abcdef".toList.getD (n % 16) '0']

/-- The label of a blank node: 32 hexadecimal digits, of which the first eight are always the
same.  It is no absolute IRI. -/
def label (number : Nat) : String := String.ofList (mark ++ digits 24 number)

/-- Whether a text is the label of a blank node. -/
def isLabel (text : String) : Bool :=
  let cs := text.toList
  cs.take 8 == mark && cs.length == 32 && cs.all (fun c => (Text.Hex.value? c).isSome)

end Blank

namespace Term

/-- The text that stands for a term in a row: the IRI, the label of the blank node, or the value of
the literal alone. -/
def text : Term → String
  | iri text => text
  | blank number => Blank.label number
  | literal value _ => value

/-- Gives blank nodes other numbers. -/
def renumber (f : Nat → Nat) : Term → Term
  | blank number => blank (f number)
  | t => t

end Term

end GraphCommit
