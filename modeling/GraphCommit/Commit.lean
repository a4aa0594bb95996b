import GraphCommit.Backend

/-!
# Committing a client

The part of the commit phase that depends on the store.  A flushing commit brings the data to the
disk when the branch wrote anything; that this failed is reported as a failed flush even though
the commit itself went through.
-/

namespace GraphCommit

/-- How the writes of a branch are committed. -/
inductive Strategy where
  | plain
  | flushing
  deriving DecidableEq, Repr, Inhabited

namespace Strategy

/-- The strategy that a store of the given durability needs. -/
def ofDurability : Durability → Strategy
  | .onCommit => plain
  | .onShutdown => flushing

/-- Any fault of a flush, as a failed flush. -/
def asFlushFault : Fault → Fault
  | .flush reason => .flush reason
  | other => .flush other.message

/-- Commits the pending writes of a client whose branch has a journal of the given size. -/
def commit {S : Type} [Backend S] (strategy : Strategy) (client : ClientId) (journalSize : Nat) :
    Job S Unit := do
  client.act .commit
  match strategy with
  | plain => return ()
  | flushing =>
    if 0 < journalSize then
      Job.note .debug Record.commits
        ("flushing repository after committing " ++ toString journalSize ++ " operations")
      (client.act .flush).relabel asFlushFault

end Strategy

end GraphCommit
