import GraphCommit.Xml.Markup

/-!
# Trees of XML elements

The markup of a document makes a forest: every closing tag closes the element that was opened
last.  The names of elements and attributes are put into the namespaces that are declared around
them.  An element that is still open at the end of the document is kept, and marked as open.
-/

namespace GraphCommit.Xml

/-- A name in a namespace; the namespace is empty where there is none. -/
structure Name where
  space : String
  name : String
  deriving DecidableEq, Repr

structure Attribute where
  /-- The name as it is written. -/
  written : String
  name : Name
  value : String
  deriving DecidableEq, Repr

structure Tag where
  /-- The name as it is written. -/
  written : String
  name : Name
  attributes : List Attribute
  deriving DecidableEq, Repr

inductive Tree where
  | element (tag : Tag) (children : List Tree) (isClosed : Bool)
  | text (value : List Char)
  deriving Repr

namespace Tree

/-- The namespaces that every document has: of `xml:` attributes and of declarations. -/
def declarationSpace : String := "http://www.w3.org/2000/xmlns/"
def xmlSpace : String := "http://www.w3.org/XML/1998/namespace"

/-- The namespaces by their short names; the empty one is that of elements without one. -/
abbrev Spaces := List (String × String)

/-- The parts of a name before and behind its colon. -/
def parts (written : String) : Option String × String :=
  match Text.splitOn ':' written.toList with
  | [space, name] => (some (String.ofList space), String.ofList name)
  | _ => (none, written)

/-- The namespaces inside an element with the given attributes. -/
def declared (spaces : Spaces) (attributes : List (String × String)) : Spaces :=
  attributes.foldl
    (fun spaces a =>
      match parts a.1 with
      | (some "xmlns", name) => (name, a.2) :: spaces
      | (none, "xmlns") => ("", a.2) :: spaces
      | _ => spaces)
    spaces

/-- The name that is written in an element; `default` is the namespace without a short name. -/
def name? (spaces : Spaces) (default : String) (written : String) : Option Name :=
  match parts written with
  | (none, name) => some ⟨if name = "xmlns" then declarationSpace else default, name⟩
  | (some "xmlns", name) => some ⟨declarationSpace, name⟩
  | (some short, name) =>
    match spaces.lookup short with
    | some space => if space.isEmpty || name.isEmpty then none else some ⟨space, name⟩
    | none => none

def tag? (spaces : Spaces) (written : String) (attributes : List (String × String)) :
    Option Tag := do
  let name ← name? spaces ((spaces.lookup "").getD "") written
  let attributes ← attributes.mapM fun (a, value) => do
    return ⟨a, ← name? spaces "" a, value⟩
  return ⟨written, name, attributes⟩

/-- An element whose closing tag is still to come, with what stands before it in its parent, last
first. -/
structure Open where
  tag : Tag
  spaces : Spaces
  before : List Tree

/-- Adds a text behind other trees, joining it with a text that stands there. -/
def addText (value : List Char) : List Tree → List Tree
  | text before :: rest => text (before ++ value) :: rest
  | trees => text value :: trees

/-- Ends the elements that are still open around the given trees, which are in reverse. -/
def endAll (trees : List Tree) : List Open → List Tree
  | [] => trees.reverse
  | o :: stack => endAll (element o.tag trees.reverse false :: o.before) stack

/-- The forest of markup behind other trees, in reverse, inside of open elements. -/
def ofMarkup (outer : Spaces) (trees : List Tree) (stack : List Open) :
    List Markup → Option (List Tree)
  | [] => some (endAll trees stack)
  | .text value :: rest => ofMarkup outer (addText value trees) stack rest
  | .opening written attributes isEmpty :: rest => do
    let around := match stack with | o :: _ => o.spaces | [] => outer
    let spaces := declared around attributes
    let tag ← tag? spaces written attributes
    if isEmpty then ofMarkup outer (element tag [] true :: trees) stack rest
    else ofMarkup outer [] (⟨tag, spaces, trees⟩ :: stack) rest
  | .closing written :: rest =>
    match stack with
    | o :: stack =>
      if o.tag.written = written then
        ofMarkup outer (element o.tag trees.reverse true :: o.before) stack rest
      else none
    | [] => none

/-- The forest of a document, or nothing if its tags do not match. -/
def read (document : String) : Option (List Tree) := do
  ofMarkup [("xml", xmlSpace)] [] [] (← Markup.all document)

/-! ## Writing -/

def escapeText (value : List Char) : List Char :=
  value.flatMap fun c =>
    match c with
    | '<' => "&lt;".toList
    | '>' => "&gt;".toList
    | '&' => "&amp;".toList
    | c => [c]

def escapeValue (value : List Char) : List Char :=
  value.flatMap fun c =>
    match c with
    | '<' => "&lt;".toList
    | '&' => "&amp;".toList
    | '"' => "&quot;".toList
    | c => [c]

def writeAttribute (a : Attribute) : List Char :=
  ' ' :: a.written.toList ++ "=\"".toList ++ escapeValue a.value.toList ++ ['"']

mutual

/-- The text of a tree, with a closing tag for every element. -/
def write : Tree → List Char
  | text value => escapeText value
  | element tag children _ =>
    '<' :: tag.written.toList ++ tag.attributes.flatMap writeAttribute ++ ['>'] ++
      writeAll children ++ "</".toList ++ tag.written.toList ++ ['>']

def writeAll : List Tree → List Char
  | [] => []
  | t :: rest => write t ++ writeAll rest

end

end Tree

end GraphCommit.Xml
