import GraphCommit.Lock.Manager

/-!
# Guards of the read lock

A guard is what a read of the lock returns; dropping it releases the read lock.  A read that has to
wait gets its guard when its call returns, and none if the call gives up.

A guard knows its holder and not the call that it was made by.  So dropping it releases the read
lock of the holder, and leaves the write lock in place.
-/

namespace GraphCommit

/-- A read lock that is released when the guard is dropped. -/
structure Guard where
  id : Nat
  holder : Holder
  deriving DecidableEq, Repr

/-- A lock with the guards that were made over it. -/
structure GuardedLock where
  locks : LockManager := {}
  /-- The guards of the reads that wait, with the tickets of their calls. -/
  awaited : List (Nat × Guard) := []
  live : List Guard := []
  /-- How many guards were asked for so far. -/
  made : Nat := 0
  deriving Repr, Inhabited

namespace GuardedLock

/-- Hands out the guards of the reads that were let through, and none to those that gave up. -/
def settle (g : GuardedLock) : GuardedLock :=
  let returned := g.awaited.filter fun a => !g.locks.isWaiting a.1
  { g with
    awaited := g.awaited.filter fun a => g.locks.isWaiting a.1
    live := g.live ++ (returned.filter fun a => !g.locks.gaveUp.contains a.1).map Prod.snd }

/-- Asks for the read lock, and for a guard over it. -/
def read (g : GuardedLock) (h : Holder) : GuardedLock :=
  let guard : Guard := ⟨g.made, h⟩
  match g.locks.lockToRead h with
  | (.granted, locks) => { g with locks, live := g.live ++ [guard], made := g.made + 1 }
  | (.refused, locks) => { g with locks, made := g.made + 1 }
  | (.waiting ticket, locks) =>
    { g with locks, awaited := g.awaited ++ [(ticket, guard)], made := g.made + 1 }

/-- Drops a guard and releases the read lock of its holder. -/
def drop (g : GuardedLock) (guard : Guard) : GuardedLock :=
  { g with locks := g.locks.unlockRead guard.holder, live := g.live.erase guard }.settle

end GuardedLock

end GraphCommit
