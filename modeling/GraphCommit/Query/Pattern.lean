import GraphCommit.Rdf.Term
import GraphCommit.Row

/-!
# Patterns and their solutions

A pattern describes what is looked for in a dataset.  A solution assigns terms to the unknowns of a
pattern, not necessarily to all of them.  A group of triples is solved one triple after another,
the other patterns are solved from the solutions of their parts: a join merges compatible
solutions, an optional part extends a solution where it can.  Triples are looked for in the
default graph, or in the named graph that the pattern around them says.
-/

namespace GraphCommit.Query

/-- What a pattern leaves open: a variable, or a blank node of the query. -/
inductive Unknown where
  | named (name : String)
  | anonymous (number : Nat)
  deriving DecidableEq, Repr

/-- A place of a triple: filled, or left open. -/
inductive Slot where
  | term (t : Term)
  | unknown (u : Unknown)
  deriving DecidableEq, Repr

structure TriplePattern where
  subject : Slot
  predicate : Slot
  object : Slot
  deriving DecidableEq, Repr

inductive Pattern where
  | triples (ts : List TriplePattern)
  | join (left right : Pattern)
  | union (left right : Pattern)
  /-- The solutions of the first part, extended by those of the second where there are any. -/
  | optional (left right : Pattern)
  /-- A pattern whose triples are in a named graph. -/
  | inGraph (graph : Slot) (inner : Pattern)
  /-- A pattern that another service is asked to solve. -/
  | service (silent : Bool)
  deriving DecidableEq, Repr

/-- The pattern with exactly one solution, which assigns nothing. -/
def Pattern.nothing : Pattern := .triples []

namespace Pattern

/-- Whether another service has to be asked. -/
def needsService : Pattern → Bool
  | triples _ => false
  | join l r | union l r | optional l r => l.needsService || r.needsService
  | inGraph _ p => p.needsService
  | service silent => !silent

/-- The variables of a slot. -/
def slotNames : Slot → List String
  | .unknown (.named name) => [name]
  | _ => []

/-- The variables of a pattern. -/
def names : Pattern → List String
  | triples ts => ts.flatMap fun t =>
    slotNames t.subject ++ slotNames t.predicate ++ slotNames t.object
  | join l r | union l r | optional l r => l.names ++ r.names
  | inGraph graph p => slotNames graph ++ p.names
  | service _ => []

end Pattern

/-! ## Datasets -/

/-- The statements that a query sees: those of the default graph, and those of the named graphs. -/
structure View where
  default : List Statement
  named : List (String × Statement)
  deriving Repr

/-- The graphs that a query is about: those that make up its default graph, and its named graphs. -/
structure Clauses where
  default : List String := []
  named : List String := []
  /-- Whether all graphs together make up the default graph. -/
  union : Bool := false
  deriving DecidableEq, Repr

/-- The statements of one graph. -/
def statementsOf (quads : List Quad) (graph : String) : List Statement :=
  quads.filterMap fun q => if q.graph = some graph then some q.statement else none

/-- The statements of all named graphs. -/
def namedStatements (quads : List Quad) : List (String × Statement) :=
  quads.filterMap fun q => q.graph.map fun g => (g, q.statement)

/-- What a query sees.  If it names no graph, its default graph is the one without a name.  A
statement in two graphs of the default graph counts twice. -/
def View.of (quads : List Quad) (clauses : Clauses) : View :=
  if clauses.union then ⟨quads.map Quad.statement, namedStatements quads⟩
  else if clauses = {} then
    ⟨(quads.filter fun q => q.graph.isNone).map Quad.statement, namedStatements quads⟩
  else
    ⟨clauses.default.flatMap (statementsOf quads),
      clauses.named.flatMap fun g => (statementsOf quads g).map fun s => (g, s)⟩

/-! ## Solutions -/

/-- The terms of unknowns, each given once. -/
abbrev Solution := List (Unknown × Term)

namespace Solution

/-- Assigns a term to an unknown, unless it has another. -/
def assign (s : Solution) (u : Unknown) (t : Term) : Option Solution :=
  match s.lookup u with
  | some other => if other = t then some s else none
  | none => some (s ++ [(u, t)])

/-- Puts a term into a slot. -/
def fill (s : Solution) (slot : Slot) (t : Term) : Option Solution :=
  match slot with
  | .term other => if other = t then some s else none
  | .unknown u => s.assign u t

/-- Matches a triple with a statement. -/
def fit (s : Solution) (p : TriplePattern) (st : Statement) : Option Solution := do
  let s ← s.fill p.subject st.subject
  let s ← s.fill p.predicate st.predicate
  s.fill p.object st.object

/-- Two solutions in one, if they agree where both assign a term. -/
def merge (s other : Solution) : Option Solution :=
  other.foldlM (fun s entry => s.assign entry.1 entry.2) s

end Solution

/-- The solutions that extend a solution by matching a triple. -/
def matching (view : View) (graph : Option Slot) (p : TriplePattern) (s : Solution) :
    List Solution :=
  match graph with
  | none => view.default.filterMap (s.fit p)
  | some g => view.named.filterMap fun (name, st) => do (← s.fill g (.iri name)).fit p st

/-- The solutions of a pattern, whose triples are in the given named graph or else in the default
graph. -/
def Pattern.solutions (view : View) (graph : Option Slot) : Pattern → List Solution
  | triples ts => ts.foldl (fun ss t => ss.flatMap (matching view graph t)) [[]]
  | join l r =>
    let right := r.solutions view graph
    (l.solutions view graph).flatMap fun s => right.filterMap s.merge
  | union l r => l.solutions view graph ++ r.solutions view graph
  | optional l r =>
    let right := r.solutions view graph
    (l.solutions view graph).flatMap fun s =>
      let extended := right.filterMap s.merge
      if extended.isEmpty then [s] else extended
  | inGraph g p => p.solutions view (some g)
  | service _ => [[]]

end GraphCommit.Query
