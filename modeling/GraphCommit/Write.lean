import GraphCommit.Triple

/-!
# Writes

The four ways to change a repository.  A write names the context (the named graph) that it
changes.  Its text goes into the audit trail, where an operator finds everything that is needed to
undo it by hand.
-/

namespace GraphCommit

/-- A change of one context of the repository. -/
inductive Write where
  /-- Adds the triples of the document at `url`, whose relative references are resolved against
  `base`. -/
  | addData (url base context : String)
  | addTriple (triple : Triple) (context : String)
  | removeTriple (triple : Triple) (context : String)
  /-- Removes every triple of the context. -/
  | clear (context : String)
  deriving DecidableEq, Repr

namespace Write

/-- The context that is changed. -/
def context : Write → String
  | addData _ _ context => context
  | addTriple _ context => context
  | removeTriple _ context => context
  | clear context => context

def isAddData : Write → Bool
  | addData .. => true
  | _ => false

def text : Write → String
  | addData url base context =>
    "AddRdfData [url=" ++ url ++ ", baseUri=" ++ base ++ ", context=" ++ context ++ "]"
  | addTriple triple context =>
    "AddRdfTriple [triple=" ++ triple.text ++ ", context=" ++ context ++ "]"
  | removeTriple triple context =>
    "RemoveRdfTriple [triple=" ++ triple.text ++ ", context=" ++ context ++ "]"
  | clear context => "ClearContext [context=" ++ context ++ "]"

end Write

end GraphCommit
