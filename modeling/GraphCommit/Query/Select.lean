import GraphCommit.Query.Reader

/-!
# Queries

A query has a form and a pattern, and may name the graphs that it is about.  A selection answers
with rows, which can be made distinct and cut; a question answers with yes or no; descriptions
answer with a graph and are read here only to be told from the others.  Filters, orders, tables of
values and paths are left to other engines than the small one.
-/

namespace GraphCommit.Query

inductive Form where
  /-- The columns of the rows; without columns all variables of the pattern, in alphabetical
  order. -/
  | select (distinct : Bool) (columns : Option (List String))
  | ask
  | description
  deriving DecidableEq, Repr

/-- Which of the rows are answered. -/
structure Slice where
  offset : Nat := 0
  limit : Option Nat := none
  deriving DecidableEq, Repr

end Query

structure Query where
  form : Query.Form
  clauses : Query.Clauses
  pattern : Query.Pattern
  slice : Query.Slice
  deriving DecidableEq, Repr

namespace Query

/-! ## Reading -/

open Turtle
open Turtle.Reader

/-- Reads as long as a reader finds something. -/
def many {α : Type} (item : Reader (Option α)) : Nat → Reader (List α)
  | 0 => return []
  | n + 1 => do
    match ← item with
    | some a => return a :: (← many item n)
    | none => return []

def whole {α : Type} (item : Reader (Option α)) : Reader (List α) := do
  many item (← get).tokens.length

def variableName? : Reader (Option String) := do
  match ← peek with
  | some (.unknown name) =>
    let _ ← next
    return some name
  | _ => return none

/-- A graph that the query names, and whether as a named graph. -/
def clause? : Reader (Option (Bool × String)) := do
  if ← acceptKeyword "FROM" then
    let named ← acceptKeyword "NAMED"
    return some (named, ← iri)
  else return none

def readClauses : Reader Clauses := do
  let cs ← whole clause?
  return {
    default := (cs.filter fun c => !c.1).map Prod.snd
    named := (cs.filter fun c => c.1).map Prod.snd }

def natural : Reader Nat := do
  match ← next with
  | .integer text => demand text.toNat?
  | _ => refuse

def readSlice : Reader Slice := do
  if ← acceptKeyword "LIMIT" then
    let limit ← natural
    let offset ← if ← acceptKeyword "OFFSET" then natural else pure 0
    return ⟨offset, some limit⟩
  else if ← acceptKeyword "OFFSET" then
    let offset ← natural
    let limit ← if ← acceptKeyword "LIMIT" then some <$> natural else pure none
    return ⟨offset, limit⟩
  else return {}

/-- The graphs, the pattern and the slice of a query. -/
def readBody (form : Form) : Reader Query := do
  let clauses ← readClauses
  let _ ← acceptKeyword "WHERE"
  let pattern ← wholeGroup
  return ⟨form, clauses, pattern, ← readSlice⟩

def readColumns : Reader (Option (List String)) := do
  if ← accept (.mark '*') then return none
  let names ← whole variableName?
  if names.isEmpty then refuse
  return some names

def readSelect : Reader Query := do
  let distinct ← acceptKeyword "DISTINCT"
  if !distinct then
    let _ ← acceptKeyword "REDUCED"
  readBody (.select distinct (← readColumns))

/-- The triples between braces. -/
def readTemplate : Reader (List Turtle.Pattern) := do
  expect (.mark '\x7b')
  let ts ← someTriples
  expect (.mark '\x7d')
  return ts

/-- A description by a template, or by the pattern itself. -/
def readConstruct : Reader Query := do
  if (← peek) = some (.mark '\x7b') then
    let _ ← readTemplate
    readBody .description
  else
    let clauses ← readClauses
    if !(← acceptKeyword "WHERE") then refuse
    let ts ← readTemplate
    return ⟨.description, clauses, .triples (ts.map .of), ← readSlice⟩

/-- A variable or an IRI, if there is one. -/
def resource? : Reader (Option Slot) := do
  match ← peek with
  | some (.unknown _) | some (.reference _) | some (.short ..) => some <$> variableOrIri
  | _ => return none

def readDescribe : Reader Query := do
  if !(← accept (.mark '*')) then
    let resources ← whole resource?
    if resources.isEmpty then refuse
  let clauses ← readClauses
  let hasPattern := (← acceptKeyword "WHERE") || (← peek) == some (.mark '\x7b')
  let pattern ← if hasPattern then wholeGroup else pure .nothing
  return ⟨.description, clauses, pattern, ← readSlice⟩

def readQuery : Reader Query := do
  wholePrologue
  if ← acceptKeyword "SELECT" then readSelect
  else if ← acceptKeyword "ASK" then readBody .ask
  else if ← acceptKeyword "CONSTRUCT" then readConstruct
  else if ← acceptKeyword "DESCRIBE" then readDescribe
  else refuse

/-- The query that a text spells out, or nothing if it is none. -/
def read (text : String) : Option Query := readAll readQuery text

/-! ## Answers -/

/-- The given columns of a solution, in their order, as far as they have terms. -/
def project (columns : List String) (s : Solution) : List (String × Term) :=
  columns.filterMap fun name => (s.lookup (.named name)).map fun t => (name, t)

/-- Every element once, where it comes first. -/
def distinct {α : Type} [DecidableEq α] (xs : List α) : List α :=
  (xs.foldl (fun seen x => if seen.contains x then seen else x :: seen) []).reverse

def Slice.take {α : Type} (s : Slice) (xs : List α) : List α :=
  let xs := xs.drop s.offset
  match s.limit with
  | some n => xs.take n
  | none => xs

/-- The solutions of the pattern of a query. -/
def solutions (q : Query) (quads : List Quad) : List Solution :=
  q.pattern.solutions (View.of quads q.clauses) none

/-- The columns of the answer. -/
def columnsOf (q : Query) : List String :=
  match q.form with
  | .select _ (some columns) => columns
  | _ => distinct (q.pattern.names.mergeSort fun a b => a ≤ b)

/-- The rows of a selection: names with their terms. -/
def rows (q : Query) (quads : List Quad) : List (List (String × Term)) :=
  let cells := (q.solutions quads).map (project q.columnsOf)
  let cells := match q.form with
    | .select true _ => distinct cells
    | _ => cells
  q.slice.take cells

/-- The answer to a question: whether there is a solution. -/
def holds (q : Query) (quads : List Quad) : Bool := !(q.slice.take (q.solutions quads)).isEmpty

end Query

end GraphCommit
