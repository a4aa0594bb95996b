import GraphCommit.Turtle.Triples

/-!
# Turtle documents

A document is a row of declarations and triples, each of which ends with a dot; the declarations
that are written as in queries have none.
-/

namespace GraphCommit.Turtle

/-- What a document says: its statements in order, with blank nodes numbered from zero, and how many
blank nodes there are. -/
structure Contents where
  statements : List Statement
  blanks : Nat
  deriving DecidableEq, Repr

namespace Reader

/-- A declaration or triples. -/
def paragraph : Reader Unit := do
  match ← peek with
  | some (.at_ "prefix") =>
    let _ ← next
    readSpace
    expect (.mark '.')
  | some (.at_ "base") =>
    let _ ← next
    readBase
    expect (.mark '.')
  | _ =>
    if ← acceptKeyword "PREFIX" then readSpace
    else if ← acceptKeyword "BASE" then readBase
    else
      triples false
      expect (.mark '.')

/-- Reads paragraphs until no token is left; each takes a token at least. -/
def paragraphs : Nat → Reader Unit
  | 0 => do
    if (← peek).isSome then refuse
  | n + 1 => do
    if (← peek).isSome then
      paragraph
      paragraphs n

end Reader

/-- What a Turtle document says, relative references being resolved against the base, or nothing if
it is none. -/
def read (base : Option (List Char)) (text : String) : Option Contents := do
  let tokens ← Token.all text
  let ((), r) ← Reader.paragraphs tokens.length { base, tokens }
  let statements ← r.triples.reverse.mapM Pattern.toStatement?
  return ⟨statements, r.blanks⟩

end GraphCommit.Turtle
