import GraphCommit.Turtle.Document

/-!
# Documents of one triple a line

In an N-Triples document each line holds a triple with a dot behind it, or nothing; a comment may
end it.  Every IRI is absolute, and strings stand in double quotes.
-/

namespace GraphCommit.Lines

open Turtle

/-- The lines of a text, which end at any line feed or carriage return. -/
def split (text : List Char) : List (List Char) :=
  Text.splitBy (fun c => c == '\n' || c == '\r') text

/-- The labelled blank nodes of the lines that have been read. -/
structure Labels where
  numbers : List (String × Nat) := []
  blanks : Nat := 0
  deriving DecidableEq, Repr

def Labels.node (labels : Labels) (label : String) : Term × Labels :=
  match labels.numbers.lookup label with
  | some n => (.blank n, labels)
  | none =>
      (.blank labels.blanks, ⟨(label, labels.blanks) :: labels.numbers, labels.blanks + 1⟩)

/-- Leaves blanks and tabulators out. -/
def trim (text : List Char) : List Char := text.dropWhile fun c => c == ' ' || c == '\t'

/-- An absolute IRI behind its opening bracket. -/
def iri (text : List Char) : Option (String × List Char) := do
  let (text, rest) ← Token.readReference (text.length + 1) [] text
  if Iri.isAbsolute text.toList then some (text, rest) else none

/-- A label behind its underscore and colon; colons may stand in it. -/
def label : List Char → Option (String × List Char)
  | [] => none
  | c :: rest =>
    if isNameStart c || c.isDigit || c == ':' then
      let (more, rest) := Token.dotted (fun c => isNameInner c || c == ':') rest
      some (String.ofList (c :: more), rest)
    else none

/-- What follows the value of a literal. -/
def annotated (value : String) (text : List Char) : Option (Term × List Char) :=
  match trim text with
  | '@' :: rest => do
    match ← Token.atWord rest with
    | (.at_ tag, rest) => return (Literal.tagged value (← LanguageTag.ofText? tag.toList), rest)
    | _ => none
  | '^' :: '^' :: rest =>
    match trim rest with
    | '<' :: rest => do
      let (datatype, rest) ← iri rest
      return (Literal.typed value datatype, rest)
    | _ => none
  | rest => some (Literal.plain value, rest)

/-- The term that a line begins with. -/
def term (labels : Labels) (text : List Char) : Option (Term × Labels × List Char) :=
  match trim text with
  | '<' :: rest => do
    let (text, rest) ← iri rest
    return (.iri text, labels, rest)
  | '_' :: ':' :: rest => do
    let (name, rest) ← label rest
    let (t, labels) := labels.node name
    return (t, labels, rest)
  | '"' :: rest => do
    let (value, rest) ← Token.shortString '"' (rest.length + 1) [] rest
    let (t, rest) ← annotated value rest
    return (t, labels, rest)
  | _ => none

/-- Whether nothing is left of a line but a comment. -/
def isOver (line : List Char) : Bool :=
  match trim line with
  | [] => true
  | c :: _ => c == '#'

/-- The statement of a line, if it has one. -/
def statement? (labels : Labels) (line : List Char) : Option (Option Statement × Labels) := do
  if isOver line then return (none, labels)
  let (subject, labels, rest) ← term labels line
  let (predicate, labels, rest) ← term labels rest
  let (object, labels, rest) ← term labels rest
  match trim rest with
  | '.' :: rest =>
    if !isOver rest then none
    let s ← Pattern.toStatement? ⟨.term subject, .term predicate, .term object⟩
    return (some s, labels)
  | _ => none

/-- The statements of lines behind others whose statements are given in reverse. -/
def readLines (labels : Labels) (statements : List Statement) :
    List (List Char) → Option Contents
  | [] => some ⟨statements.reverse, labels.blanks⟩
  | line :: lines => do
    let (s, labels) ← statement? labels line
    readLines labels (s.toList ++ statements) lines

/-- What a document of lines says, or nothing if it is none. -/
def read (text : String) : Option Contents := readLines {} [] (split text.toList)

end GraphCommit.Lines
