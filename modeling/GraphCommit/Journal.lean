import GraphCommit.Write

/-!
# The journal of a branch

A journal lists the accepted writes of one branch in the order of the calls.  The participant
votes from it and the audit trail is written from it.
-/

namespace GraphCommit

/-- The accepted writes of a branch, in call order. -/
structure Journal where
  writes : List Write
  deriving DecidableEq, Repr, Inhabited

namespace Journal

def empty : Journal := ⟨[]⟩

def append (j : Journal) (w : Write) : Journal := ⟨j.writes ++ [w]⟩

def size (j : Journal) : Nat := j.writes.length

def isEmpty (j : Journal) : Bool := j.writes.isEmpty

/-- The context of a branch that did nothing but load documents into one and the same context. -/
def serviceContext? (j : Journal) : Option String :=
  match j.writes with
  | [] => none
  | first :: _ =>
    if j.writes.all (fun w => w.isAddData && w.context == first.context) then some first.context
    else none

/-- The writes as they stand in the audit trail. -/
def text (j : Journal) : String :=
  "[" ++ ", ".intercalate (j.writes.map Write.text) ++ "]"

@[simp] theorem writes_append (j : Journal) (w : Write) :
    (j.append w).writes = j.writes ++ [w] := rfl

end Journal

end GraphCommit
