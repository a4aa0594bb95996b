import GraphCommit.Document.FileUrl
import GraphCommit.Query.Select
import GraphCommit.Query.Update
import GraphCommit.Rdf.Order
import GraphCommit.Store.Engine

/-!
# A small engine

An engine with which stores can be run and tried out.  It reads a part of both languages: it looks
for patterns, and it inserts, deletes and clears.  It goes through the quads in an order of their
own, so that its answers do not depend on another one.  It asks no other services and downloads
nothing.
-/

namespace GraphCommit

namespace Query

def serviceText : String := "The SERVICE feature is not implemented"

/-- What is found for a query.  Whether another service has to be asked shows only when the first
solution is looked for. -/
def evaluate (q : Query) (quads : List Quad) : Except String Answer :=
  let quads := Quad.inOrder quads
  match q.form with
  | .select .. =>
    .ok (.solutions (if q.pattern.needsService then .error serviceText else .ok (q.rows quads)))
  | .ask => if q.pattern.needsService then .error serviceText else .ok (.verdict (q.holds quads))
  | .description => .ok .graph

end Query

/-- The engine for a part of the languages, over documents on this machine. -/
@[reducible]
def Engine.small : Engine where
  toFetcher := .offline
  Query := GraphCommit.Query
  Request := GraphCommit.Query.Request
  readQuery? := Query.read
  leavesGraphsOpen q := q.clauses == {}
  overAll q := { q with clauses := { q.clauses with union := true } }
  evaluate := Query.evaluate
  evaluate_perm q _ _ hquads := by simp only [Query.evaluate, Quad.inOrder_of_perm hquads]
  readRequest? := Query.Request.read
  carryOut request blanks data := do return (← data.carryOut blanks request, request.blanks)

end GraphCommit
