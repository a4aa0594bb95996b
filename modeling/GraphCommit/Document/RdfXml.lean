import GraphCommit.Turtle.Document
import GraphCommit.Xml.Tree

/-!
# RDF in XML

An element that describes a node holds elements that are its properties, and a property element
holds the element of another node, a text, or nothing; attributes name the nodes and abbreviate
properties.  The base and the language are inherited from the elements around.  A property that is
not closed says nothing, though the nodes in it do.
-/

namespace GraphCommit.RdfXml

open Xml

/-- A name in the vocabulary of RDF. -/
def vocabulary (name : String) : String := Turtle.Reader.space ++ name

/-- Names that are part of the notation itself. -/
def coreNames : List String :=
  ["RDF", "ID", "about", "parseType", "resource", "nodeID", "datatype", "aboutEach",
   "aboutEachPrefix", "bagID"].map vocabulary

def isNodeName (iri : String) : Bool := !coreNames.contains iri && iri != vocabulary "li"

def isPropertyName (iri : String) : Bool :=
  !coreNames.contains iri && iri != vocabulary "Description"

def isPropertyAttribute (iri : String) : Bool := isNodeName iri && isPropertyName iri

/-- What is inherited from the elements around. -/
structure Setting where
  base : Option (List Char)
  language : Option String
  deriving DecidableEq, Repr

/-- What has been read so far. -/
structure Reading where
  /-- The numbers of the labelled blank nodes. -/
  labels : List (String × Nat) := []
  blanks : Nat := 0
  /-- The IRIs that elements have been named with. -/
  named : List String := []
  /-- The statements, the last one first. -/
  statements : List Statement := []

abbrev Reader (α : Type) := StateT Reading Option α

def refuse {α : Type} : Reader α := fun _ => none

def demand {α : Type} : Option α → Reader α
  | some a => pure a
  | none => refuse

def check (condition : Bool) : Reader Unit := if condition then pure () else refuse

def emit (subject : Term) (predicate : String) (object : Term) : Reader Unit :=
  modify fun r => { r with statements := ⟨subject, .iri predicate, object⟩ :: r.statements }

def fresh : Reader Term := do
  let r ← get
  set { r with blanks := r.blanks + 1 }
  return .blank r.blanks

def labelled (label : String) : Reader Term := do
  let r ← get
  match r.labels.lookup label with
  | some n => return .blank n
  | none =>
    set { r with labels := (label, r.blanks) :: r.labels, blanks := r.blanks + 1 }
    return .blank r.blanks

/-! ## Names and attributes -/

/-- The IRI of a name, which is in some namespace. -/
def iriOf (name : Name) : Reader String := do
  check (!name.space.isEmpty)
  return name.space ++ name.name

/-- Whether a text is a name without a colon. -/
def isPlainName : List Char → Bool
  | c :: rest => Turtle.isNameStart c && rest.all fun d => Turtle.isNameInner d || d == '.'
  | [] => false

def resolve (s : Setting) (reference : String) : Reader String := do
  return String.ofList (← demand (Iri.absolute? s.base reference.toList))

/-- The setting inside an element. -/
def enter (s : Setting) (tag : Tag) : Reader Setting := do
  let value (name : String) : Option String :=
    (tag.attributes.find? fun a => a.name = ⟨Tree.xmlSpace, name⟩).map Attribute.value
  let base ← match value "base" with
    | some text => some <$> String.toList <$> resolve s text
    | none => pure s.base
  let language ← match value "lang" with
    | some "" => pure none
    | some text => some <$> demand (LanguageTag.ofText? text.toList)
    | none => pure s.language
  return ⟨base, language⟩

/-- The attributes of an element that belong to the notation, and those that are properties. -/
structure Attributes where
  id : Option String := none
  about : Option String := none
  nodeId : Option String := none
  resource : Option String := none
  datatype : Option String := none
  parseType : Option String := none
  type : Option String := none
  properties : List (String × String) := []
  deriving DecidableEq, Repr

def sort (attributes : Attributes) : List Attribute → Reader Attributes
  | [] => return attributes
  | a :: rest => do
    if a.name.space = Tree.xmlSpace ∨ a.name.space = Tree.declarationSpace then
      sort attributes rest
    else
      let iri ← iriOf a.name
      if iri = vocabulary "ID" then sort { attributes with id := some a.value } rest
      else if iri = vocabulary "about" then sort { attributes with about := some a.value } rest
      else if iri = vocabulary "nodeID" then sort { attributes with nodeId := some a.value } rest
      else if iri = vocabulary "resource" then
        sort { attributes with resource := some a.value } rest
      else if iri = vocabulary "datatype" then
        sort { attributes with datatype := some a.value } rest
      else if iri = vocabulary "parseType" then
        sort { attributes with parseType := some a.value } rest
      else if iri = vocabulary "type" then sort { attributes with type := some a.value } rest
      else
        check (isPropertyAttribute iri)
        sort { attributes with properties := attributes.properties ++ [(iri, a.value)] } rest

/-- The IRI that an element names with its identifier, which no other element does. -/
def name (s : Setting) (id : String) : Reader String := do
  check (isPlainName id.toList)
  let iri ← resolve s ("#" ++ id)
  check (!(← get).named.contains iri)
  modify fun r => { r with named := iri :: r.named }
  return iri

def nodeOfLabel (label : String) : Reader Term := do
  check (isPlainName label.toList)
  labelled label

/-! ## Properties -/

def text (s : Setting) (value : String) : Term :=
  match s.language with
  | some tag => Literal.tagged value tag
  | none => Literal.plain value

/-- The properties that are written as attributes. -/
def emitAttributes (s : Setting) (subject : Term) (a : Attributes) : Reader Unit := do
  match a.type with
  | some type => emit subject (vocabulary "type") (.iri (← resolve s type))
  | none => pure ()
  a.properties.forM fun p => emit subject p.1 (text s p.2)

/-- A statement, and four more about it if it has a name. -/
def emitNamed (name : Option String) (subject : Term) (predicate : String) (object : Term) :
    Reader Unit := do
  emit subject predicate object
  match name with
  | none => pure ()
  | some iri =>
    emit (.iri iri) (vocabulary "type") (.iri (vocabulary "Statement"))
    emit (.iri iri) (vocabulary "subject") subject
    emit (.iri iri) (vocabulary "predicate") (.iri predicate)
    emit (.iri iri) (vocabulary "object") object

/-- The list that holds the given nodes. -/
def emitList : List Term → Reader Term
  | [] => return .iri (vocabulary "nil")
  | item :: rest => do
    let node ← fresh
    emit node (vocabulary "first") item
    emit node (vocabulary "rest") (← emitList rest)
    return node

def isBlankText (value : List Char) : Bool := value.all Turtle.isBlank

/-- The text of trees that hold no element. -/
def textOf? : List Tree → Option (List Char)
  | [] => some []
  | .text value :: rest => (textOf? rest).map (value ++ ·)
  | .element .. :: _ => none

/-- The node that a property names by an attribute, or that its attributes describe. -/
def describedNode (s : Setting) (a : Attributes) : Reader Term := do
  let node ← match a.resource, a.nodeId with
    | some iri, none => .iri <$> resolve s iri
    | none, some label => nodeOfLabel label
    | none, none => fresh
    | some _, some _ => refuse
  emitAttributes s node a
  return node

/-- The node that an element describes, by its attributes. -/
def subjectOf (s : Setting) (a : Attributes) : Reader Term := do
  match a.id, a.nodeId, a.about with
  | some id, none, none => .iri <$> name s id
  | none, some label, none => nodeOfLabel label
  | none, none, some iri => .iri <$> resolve s iri
  | none, none, none => fresh
  | _, _, _ => refuse

/-! ## Elements -/

mutual

/-- The node that an element describes. -/
def node (s : Setting) : Tree → Reader Term
  | .text _ => refuse
  | .element tag children _ => do
    let s ← enter s tag
    let iri ← iriOf tag.name
    check (isNodeName iri)
    let a ← sort {} tag.attributes
    check (a.resource.isNone && a.datatype.isNone && a.parseType.isNone)
    let subject ← subjectOf s a
    if iri ≠ vocabulary "Description" then emit subject (vocabulary "type") (.iri iri)
    emitAttributes s subject a
    properties s subject 1 children
    return subject

/-- The nodes that elements with blank text between them describe. -/
def nodes (s : Setting) : List Tree → Reader (List Term)
  | [] => return []
  | .text value :: rest => do
    check (isBlankText value)
    nodes s rest
  | t :: rest => do
    let first ← node s t
    return first :: (← nodes s rest)

/-- The properties of a subject; `count` is the number of its next numbered one. -/
def properties (s : Setting) (subject : Term) (count : Nat) : List Tree → Reader Unit
  | [] => pure ()
  | .text value :: rest => do
    check (isBlankText value)
    properties s subject count rest
  | t :: rest => do
    let numbered ← property s subject count t
    properties s subject (if numbered then count + 1 else count) rest

/-- A property of a subject, and whether it is a numbered one. -/
def property (s : Setting) (subject : Term) (count : Nat) : Tree → Reader Bool
  | .text _ => refuse
  | .element tag children isClosed => do
    let s ← enter s tag
    let written ← iriOf tag.name
    check (isPropertyName written)
    let numbered := written = vocabulary "li"
    let iri := if numbered then vocabulary ("_" ++ toString count) else written
    let a ← sort {} tag.attributes
    check a.about.isNone
    let name ← match a.id with
      | some id => some <$> name s id
      | none => pure none
    let rest := { a with id := none }
    match a.parseType with
    | some "Resource" =>
      check (rest = { parseType := a.parseType })
      let object ← fresh
      emitNamed name subject iri object
      properties s object 1 children
    | some "Collection" =>
      check (rest = { parseType := a.parseType })
      let items ← nodes s children
      if isClosed then emitNamed name subject iri (← emitList items)
    | some _ =>
      check (rest = { parseType := a.parseType })
      if isClosed then
        let value := String.ofList (Tree.writeAll children)
        emitNamed name subject iri (Literal.typed value (vocabulary "XMLLiteral"))
    | none =>
      match textOf? children with
      | none =>
        check (rest = {})
        let objects ← nodes s children
        match objects with
        | [object] => if isClosed then emitNamed name subject iri object
        | _ => refuse
      | some value =>
        if rest = {} ∨ rest = { datatype := a.datatype } then
          let value := String.ofList value
          let object ← match a.datatype with
            | some datatype => pure (Literal.typed value (← resolve s datatype))
            | none => pure (text s value)
          if isClosed then emitNamed name subject iri object
        else
          check (isBlankText value && a.datatype.isNone)
          let object ← describedNode s a
          if isClosed then emitNamed name subject iri object
    return numbered

end

/-- The elements at the top of a document: nodes, or `RDF` elements that hold nodes. -/
def roots (s : Setting) : List Tree → Reader Unit
  | [] => pure ()
  | .element tag children isClosed :: rest => do
    if (← iriOf tag.name) = vocabulary "RDF" then
      let inner ← enter s tag
      let _ ← nodes inner children
    else
      let _ ← node s (.element tag children isClosed)
    roots s rest
  | .text value :: rest => do
    check (isBlankText value)
    roots s rest

/-- What a document in XML says, relative references being resolved against the base, or nothing if
it is none. -/
def read (base : Option (List Char)) (document : String) : Option Turtle.Contents := do
  let trees ← Tree.read document
  let ((), r) ← roots ⟨base, none⟩ trees {}
  return ⟨r.statements.reverse, r.blanks⟩

end GraphCommit.RdfXml
