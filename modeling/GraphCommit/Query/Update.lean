import GraphCommit.Query.Reader
import GraphCommit.Store.Dataset

/-!
# Update requests

A request is a row of changes with semicolons between them: quads to insert or to delete, graphs to
clear, or a document to load.  It is carried out completely or not at all.  This is as much of the
language as the small engine reads (`Engine.small`); the other kinds of requests, such as those with
a pattern and those that drop, create, copy or move graphs, need another engine.
-/

namespace GraphCommit

namespace Query

/-- The graphs that are cleared. -/
inductive Target where
  | graph (iri : String)
  | default
  | named
  | all
  deriving DecidableEq, Repr

inductive Change where
  /-- Inserts quads, whose blank nodes are numbered from zero in each request. -/
  | insert (quads : List Quad)
  | delete (quads : List Quad)
  | clear (target : Target) (silent : Bool)
  | load (silent : Bool)
  deriving DecidableEq, Repr

/-- The changes of a request in order, and how many blank nodes they hold. -/
structure Request where
  changes : List Change
  blanks : Nat
  deriving DecidableEq, Repr

namespace Request

open Turtle
open Turtle.Reader

/-- The quads that triples in a graph make. -/
def quads (graph : Option String) (ts : List Turtle.Pattern) : Reader (List Quad) := do
  let statements ← demand (ts.mapM Turtle.Pattern.toStatement?)
  return statements.map fun s => ⟨graph, s⟩

/-- Quads up to a closing brace: triples, and graphs in braces. -/
def readQuads : Nat → Reader (List Quad)
  | 0 => refuse
  | n + 1 => do
    let first ← quads none (← someTriples)
    if ← accept (.mark '\x7d') then return first
    else if ← acceptKeyword "GRAPH" then
      let graph ← iri
      expect (.mark '\x7b')
      let second ← quads (some graph) (← someTriples)
      expect (.mark '\x7d')
      let _ ← accept (.mark '.')
      return first ++ second ++ (← readQuads n)
    else refuse

/-- The quads behind the keyword `DATA`. -/
def readData : Reader (List Quad) := do
  if !(← acceptKeyword "DATA") then refuse
  expect (.mark '\x7b')
  readQuads (← depth)

def hasBlank (q : Quad) : Bool :=
  match q.statement.subject, q.statement.object with
  | .blank _, _ | _, .blank _ => true
  | _, _ => false

def readTarget : Reader Target := do
  if ← acceptKeyword "GRAPH" then return .graph (← iri)
  else if ← acceptKeyword "DEFAULT" then return .default
  else if ← acceptKeyword "NAMED" then return .named
  else if ← acceptKeyword "ALL" then return .all
  else refuse

/-- A change, if the next token begins one. -/
def readChange : Reader (Option Change) := do
  if ← acceptKeyword "INSERT" then return some (.insert (← readData))
  else if ← acceptKeyword "DELETE" then
    let quads ← readData
    if quads.any hasBlank then refuse
    return some (.delete quads)
  else if ← acceptKeyword "CLEAR" then
    let silent ← acceptKeyword "SILENT"
    return some (.clear (← readTarget) silent)
  else if ← acceptKeyword "LOAD" then
    let silent ← acceptKeyword "SILENT"
    let _ ← iri
    if ← acceptKeyword "INTO" then
      if !(← acceptKeyword "GRAPH") then refuse
      let _ ← iri
    return some (.load silent)
  else return none

/-- Changes with semicolons between them; the last may be missing. -/
def readChanges : Nat → Reader (List Change)
  | 0 => return []
  | n + 1 => do
    wholePrologue
    match ← readChange with
    | none => return []
    | some change =>
      if ← accept (.mark ';') then return change :: (← readChanges n) else return [change]

def reader : Reader Request := do
  let changes ← readChanges (← depth)
  return ⟨changes, (← get).blanks⟩

/-- The request that a text spells out, or nothing if it is none. -/
def read (text : String) : Option Request := readAll reader text

end Request

end Query

/-! ## Carrying out requests -/

namespace Dataset

def renumber (f : Nat → Nat) (q : Quad) : Quad :=
  { q with statement :=
    { q.statement with
      subject := q.statement.subject.renumber f
      object := q.statement.object.renumber f } }

/-- Carries out one change of a request, whose blank nodes get numbers from `blanks` on, or says why
that is impossible. -/
def change (d : Dataset) (blanks : Nat) : Query.Change → Except String Dataset
  | .insert quads => .ok ((quads.map (renumber (blanks + ·))).foldl insert d)
  | .delete quads => .ok (quads.foldl remove d)
  | .clear (.graph g) silent =>
    if d.knows g then .ok (d.clear (some g))
    else if silent then .ok d
    else .error ("The graph GRAPH <" ++ g ++ "> does not exists")
  | .clear .default _ => .ok (d.clear none)
  | .clear .named _ => .ok { d with quads := d.quads.filter fun q => q.graph.isNone }
  | .clear .all _ => .ok { d with quads := [] }
  | .load silent =>
    if silent then .ok d
    else .error "HTTP client is not available. Enable the feature 'http_client'"

/-- Carries out a request completely, or says why that is impossible. -/
def carryOut (d : Dataset) (blanks : Nat) (request : Query.Request) : Except String Dataset :=
  request.changes.foldlM (fun d c => d.change blanks c) d

end Dataset

end GraphCommit
