import GraphCommit.Iri.Reference
import GraphCommit.Rdf.LanguageTag
import GraphCommit.Rdf.Literal
import GraphCommit.Turtle.Token

/-!
# Triples in Turtle notation

A subject, a list of predicates, and for each predicate a list of objects make triples.  A blank
node can be written with its own predicates in brackets, and a list in parentheses stands for the
chain of blank nodes that makes it.  The notation is used in documents and in queries; in queries a
variable may stand for any of the three.  Blank nodes are numbered from zero.
-/

namespace GraphCommit.Turtle

/-- A term, or a variable that stands for one. -/
inductive Node where
  | term (t : Term)
  | unknown (name : String)
  deriving DecidableEq, Repr, Inhabited

/-- A triple of a document or a query. -/
structure Pattern where
  subject : Node
  predicate : Node
  object : Node
  deriving DecidableEq, Repr

/-- What has been declared and read so far, and the tokens that are left. -/
structure Reading where
  base : Option (List Char)
  /-- The IRIs of the namespaces, the latest declaration first. -/
  spaces : List (String × String) := []
  /-- The numbers of the labelled blank nodes. -/
  labels : List (String × Nat) := []
  blanks : Nat := 0
  /-- The triples, the last one first. -/
  triples : List Pattern := []
  tokens : List Token

/-- A reader takes tokens, or finds that they are not what it reads. -/
abbrev Reader (α : Type) := StateT Reading Option α

namespace Reader

def space : String := "http://www.w3.org/1999/02/22-rdf-syntax-ns#"

/-- The IRI of a name in the vocabulary of RDF. -/
def vocabulary (name : String) : Node := .term (.iri (space ++ name))

def refuse {α : Type} : Reader α := fun _ => none

def peek : Reader (Option Token) := return (← get).tokens.head?

/-- Takes the next token. -/
def next : Reader Token := do
  let r ← get
  match r.tokens with
  | t :: tokens =>
    set { r with tokens }
    return t
  | [] => refuse

/-- Takes the next token if it is the given one. -/
def accept (t : Token) : Reader Bool := do
  if (← peek) = some t then
    let _ ← next
    return true
  else return false

def expect (t : Token) : Reader Unit := do
  if !(← accept t) then refuse

/-- A reader whose result is there. -/
def demand {α : Type} : Option α → Reader α
  | some a => pure a
  | none => refuse

def emit (subject predicate object : Node) : Reader Unit :=
  modify fun r => { r with triples := ⟨subject, predicate, object⟩ :: r.triples }

/-- A new blank node. -/
def fresh : Reader Node := do
  let r ← get
  set { r with blanks := r.blanks + 1 }
  return .term (.blank r.blanks)

/-- The blank node with a label. -/
def labelled (label : String) : Reader Node := do
  let r ← get
  match r.labels.lookup label with
  | some n => return .term (.blank n)
  | none =>
    set { r with labels := (label, r.blanks) :: r.labels, blanks := r.blanks + 1 }
    return .term (.blank r.blanks)

/-! ## Declarations -/

/-- The IRI that a reference means here. -/
def resolve (reference : String) : Reader String := do
  return String.ofList (← demand (Iri.absolute? (← get).base reference.toList))

def declareSpace (name iri : String) : Reader Unit :=
  modify fun r => { r with spaces := (name, iri) :: r.spaces }

/-- Reads a declaration of a namespace behind its keyword. -/
def readSpace : Reader Unit := do
  match ← next, ← next with
  | .short name "", .reference text => declareSpace name (← resolve text)
  | _, _ => refuse

/-- Reads a declaration of the base behind its keyword. -/
def readBase : Reader Unit := do
  match ← next with
  | .reference text =>
    let iri ← resolve text
    modify fun r => { r with base := some iri.toList }
  | _ => refuse

/-- The keyword that the next token spells in any case. -/
def keyword? : Reader (Option String) := do
  match ← peek with
  | some (.word w) => return some (w.map Char.toUpper)
  | _ => return none

/-- Takes the next token if it is the given keyword. -/
def acceptKeyword (word : String) : Reader Bool := do
  if (← keyword?) = some word then
    let _ ← next
    return true
  else return false

/-! ## Nodes -/

/-- The IRI that a token stands for, if it is one of an IRI. -/
def iriOf : Token → Reader String
  | .reference text => resolve text
  | .short name rest => do return (← demand ((← get).spaces.lookup name)) ++ rest
  | _ => refuse

def iri : Reader String := do iriOf (← next)

/-- The literal of a string, with the language tag or the datatype that may follow. -/
def literal (value : String) : Reader Node := do
  match ← peek with
  | some (.at_ tag) =>
    let _ ← next
    return .term (Literal.tagged value (← demand (LanguageTag.ofText? tag.toList)))
  | some .carets =>
    let _ ← next
    return .term (Literal.typed value (← iri))
  | _ => return .term (Literal.plain value)

/-- The node that a single token stands for. -/
def simple (t : Token) : Reader Node := do
  match t with
  | .label text => labelled text
  | .string value => literal value
  | .integer text => return .term (Literal.typed text Literal.integer)
  | .decimal text => return .term (Literal.typed text Literal.decimal)
  | .double text => return .term (Literal.typed text Literal.double)
  | .unknown name => return .unknown name
  | .word "true" => return .term (Literal.typed "true" Literal.boolean)
  | .word "false" => return .term (Literal.typed "false" Literal.boolean)
  | _ => return .term (.iri (← iriOf t))

/-- Whether a token can begin a predicate. -/
def beginsVerb : Token → Bool
  | .reference _ | .short .. | .unknown _ | .word "a" => true
  | _ => false

/-- Whether the next token can begin a predicate. -/
def atVerb : Reader Bool := return (← peek).any beginsVerb

def verb : Reader Node := do
  match ← next with
  | .word "a" => return vocabulary "type"
  | .unknown name => return .unknown name
  | t => return .term (.iri (← iriOf t))

/-- Takes the semicolons that come next. -/
def semicolons : Nat → Reader Unit
  | 0 => pure ()
  | n + 1 => do
    if ← accept (.mark ';') then semicolons n

/-! ## Lists -/

mutual

/-- An object, with the triples that are written in it. -/
def object : Nat → Reader Node
  | 0 => refuse
  | n + 1 => do
    match ← next with
    | .mark '[' =>
      let node ← fresh
      if !(← accept (.mark ']')) then
        properties node n
        expect (.mark ']')
      return node
    | .mark '(' => items n
    | t => simple t

/-- The objects of a predicate. -/
def objects (subject predicate : Node) : Nat → Reader Unit
  | 0 => refuse
  | n + 1 => do
    emit subject predicate (← object n)
    if ← accept (.mark ',') then objects subject predicate n

/-- The predicates of a subject with their objects. -/
def properties (subject : Node) : Nat → Reader Unit
  | 0 => refuse
  | n + 1 => do
    let predicate ← verb
    objects subject predicate n
    if (← peek) = some (.mark ';') then
      semicolons n
      if ← atVerb then properties subject n

/-- The items of a list, up to its closing parenthesis. -/
def items : Nat → Reader Node
  | 0 => refuse
  | n + 1 => do
    if ← accept (.mark ')') then return vocabulary "nil"
    let node ← fresh
    emit node (vocabulary "first") (← object n)
    emit node (vocabulary "rest") (← items n)
    return node

end

/-- A bound on how deep readers call each other: none does so more than a few times before a token
is taken. -/
def depth : Reader Nat := return 4 * (← get).tokens.length + 8

/-- A subject with its predicates.  A blank node that is written with predicates in brackets needs
no others, and in queries a list needs none. -/
def triples (listsStandAlone : Bool) : Reader Unit := do
  let n ← depth
  match ← next with
  | .mark '[' =>
    let node ← fresh
    if ← accept (.mark ']') then properties node n
    else
      properties node n
      expect (.mark ']')
      if ← atVerb then properties node n
  | .mark '(' =>
    let node ← items n
    if !listsStandAlone || (← atVerb) then properties node n
  | t => properties (← simple t) n

end Reader

namespace Node

def toTerm? : Node → Option Term
  | term t => some t
  | unknown _ => none

end Node

/-- The statement that a triple without variables makes: its subject is no literal, and its
predicate is an IRI. -/
def Pattern.toStatement? (p : Pattern) : Option Statement := do
  let subject ← p.subject.toTerm?
  let predicate ← p.predicate.toTerm?
  let object ← p.object.toTerm?
  match subject, predicate with
  | .literal .., _ => none
  | _, .iri _ => some ⟨subject, predicate, object⟩
  | _, _ => none

end GraphCommit.Turtle
