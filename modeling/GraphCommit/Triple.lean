/-!
# Triples

A triple as a caller writes it: three texts that are meant to be absolute IRIs.  Whether they are
is decided by the store that the triple is written to.
-/

namespace GraphCommit

/-- A statement whose three components are meant to be IRIs. -/
structure Triple where
  subject : String
  predicate : String
  object : String
  deriving DecidableEq, Repr, Inhabited

namespace Triple

def text (t : Triple) : String :=
  "(" ++ t.subject ++ ", " ++ t.predicate ++ ", " ++ t.object ++ ")"

end Triple

end GraphCommit
