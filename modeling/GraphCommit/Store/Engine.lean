import GraphCommit.Document.Location
import GraphCommit.Row
import GraphCommit.Store.Dataset

/-!
# Engines

An engine reads queries and update requests, and answers or carries them out on the quads of a
dataset.  What the languages are, and how an engine goes about it, is not settled here: it can be
any one, as long as an answer depends on the quads that there are, and not on the order in which
they happen to be kept.

An engine that was made for documents too says how these are fetched.
-/

namespace GraphCommit

/-- What an engine finds. -/
inductive Answer where
  /-- Names with their terms, one solution after another, or why the search was broken off. -/
  | solutions (found : Except String (List (List (String × Term))))
  | verdict (holds : Bool)
  /-- A graph, at which nobody looks. -/
  | graph

/-- What a store is run with. -/
class Engine extends Document.Fetcher where
  /-- A query that has been read. -/
  Query : Type
  /-- An update request that has been read. -/
  Request : Type
  /-- The query that a text spells out, or nothing if it is none. -/
  readQuery? (text : String) : Option Query
  /-- Whether a query does not say which graphs it is about. -/
  leavesGraphsOpen (q : Query) : Bool
  /-- The query about all graphs together. -/
  overAll (q : Query) : Query
  /-- What is found for a query in some quads, or why nothing can be looked for. -/
  evaluate (q : Query) (quads : List Quad) : Except String Answer
  /-- The order of the quads does not matter. -/
  evaluate_perm (q : Query) {quads others : List Quad} (hquads : quads.Perm others) :
    evaluate q quads = evaluate q others
  /-- The request that a text spells out, or nothing if it is none. -/
  readRequest? (text : String) : Option Request
  /-- What a request makes of a dataset, and how many blank nodes it needs: they get numbers from
  `blanks` on.  Or why the request cannot be carried out. -/
  carryOut (request : Request) (blanks : Nat) (data : Dataset) : Except String (Dataset × Nat)

/-- A solution as a row of texts. -/
def Row.ofTerms (cells : List (String × Term)) : Row :=
  ofList (cells.map fun cell => (cell.1, cell.2.text))

end GraphCommit
