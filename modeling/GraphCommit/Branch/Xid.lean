import GraphCommit.Text.Hex

/-!
# Branch identifiers

A transaction branch is named by a format number and two byte strings: the global transaction id,
which the coordinator assigns, and the branch qualifier, which tells the participants of one
global transaction apart.  Two identifiers name the same branch when all three parts agree.  The
text leaves the format number out.
-/

namespace GraphCommit

/-- Identifier of one transaction branch. -/
structure Xid where
  format : Int
  globalId : List UInt8
  qualifier : List UInt8
  deriving DecidableEq, Repr, Inhabited

namespace Xid

/-- The global transaction id and the qualifier in upper-case hexadecimal, joined by a low line. -/
def text (x : Xid) : String :=
  String.ofList (Text.Hex.encode x.globalId ++ '_' :: Text.Hex.encode x.qualifier)

end Xid

end GraphCommit
