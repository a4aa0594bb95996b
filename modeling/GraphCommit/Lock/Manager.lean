import GraphCommit.Fault
import GraphCommit.Lock.Queue
import GraphCommit.Log

/-!
# The lock over the repository

A lock manager hands out holders, keeps the queue of their requests and remembers the calls that
have not been let through yet.  A call enters a request unless its holder has one already, and
waits until the queue lets it through.  Waiting calls look at the queue whenever a request was
taken out.  With a time limit, a call that waited too long gives up and takes back the request
that it entered.

Several calls of one holder may be under way at once.  A holder that has a read lock may read
again, and one that has the write lock may do both; asking for the write lock while holding the
read lock is refused, since two holders doing so would wait for each other.

A call that is let through returns at the moment in which the request in front of it was taken out.
A thread that sleeps until then looks at the queue a little later, and in between others may come.
They cannot take away what was granted: a request that the queue lets through is let through for as
long as it stands there, whatever other holders do.  The only runs that are left out are those in
which the holder itself takes out its request, by another of its calls, between the release that
lets its sleeping call through and the moment in which that call looks; it would go on sleeping
then, or run into its time limit.
-/

namespace GraphCommit

namespace Lock

/-- A call that has not been let through yet. -/
structure Call where
  ticket : Nat
  holder : Holder
  mode : Mode
  /-- Whether the call entered the request that it waits for. -/
  entered : Bool
  deriving DecidableEq, Repr

/-- What a call for a lock comes to at once. -/
inductive Answer where
  | granted
  /-- The write lock is refused to a holder of the read lock. -/
  | refused
  | waiting (ticket : Nat)
  deriving DecidableEq, Repr

end Lock

/-- The queue of requests and the calls that wait. -/
structure LockManager where
  requests : Lock.Queue := []
  /-- The calls that wait, in the order in which they began. -/
  waiting : List Lock.Call := []
  /-- The tickets of the calls that gave up. -/
  gaveUp : List Nat := []
  /-- How many calls had to wait so far. -/
  tickets : Nat := 0
  /-- How many holders were handed out so far. -/
  registered : Nat := 0
  /-- How long a call waits; without a limit it waits for ever. -/
  timeout : Option Duration := none
  deriving Repr, Inhabited

namespace LockManager

open Lock

/-- Hands out a new holder. -/
def register (m : LockManager) : Holder × LockManager :=
  (⟨m.registered + 1⟩, { m with registered := m.registered + 1 })

/-- Whether the queue lets a call through. -/
def lets (m : LockManager) (c : Call) : Bool := m.requests.free c.holder c.mode

/-- Every waiting call looks at the queue; those that it lets through return at once. -/
def wake (m : LockManager) : LockManager :=
  { m with waiting := m.waiting.filter (fun c => !m.lets c) }

/-- A call whose request stands in the queue goes on if it may and waits otherwise. -/
def proceed (m : LockManager) (h : Holder) (mode : Mode) (entered : Bool) :
    Answer × LockManager :=
  if m.requests.free h mode then (.granted, m)
  else
    (.waiting m.tickets,
      { m with
        waiting := m.waiting ++ [⟨m.tickets, h, mode, entered⟩]
        tickets := m.tickets + 1 })

/-- Asks for the read lock.  A holder that stands in the queue already enters no second request. -/
def lockToRead (m : LockManager) (h : Holder) : Answer × LockManager :=
  if m.requests.holds h then m.proceed h .shared false
  else { m with requests := m.requests.enter h .shared }.proceed h .shared true

/-- Asks for the write lock. -/
def lockToWrite (m : LockManager) (h : Holder) : Answer × LockManager :=
  match m.requests.modeOf? h with
  | some .shared => (.refused, m)
  | some .exclusive => m.proceed h .exclusive false
  | none => { m with requests := m.requests.enter h .exclusive }.proceed h .exclusive true

def lock (m : LockManager) (h : Holder) : Mode → Answer × LockManager
  | .shared => m.lockToRead h
  | .exclusive => m.lockToWrite h

/-- Releases the read lock of a holder and leaves its write lock in place. -/
def unlockRead (m : LockManager) (h : Holder) : LockManager :=
  if m.requests.any (fun r => r.holder == h && r.mode == .shared) then
    { m with requests := m.requests.releaseRead h }.wake
  else m

/-- Releases every lock of a holder. -/
def unlockAll (m : LockManager) (h : Holder) : LockManager :=
  { m with requests := m.requests.releaseAll h }.wake

/-- How many requests stand in the queue, granted or not. -/
def held (m : LockManager) : Nat := m.requests.length

def modeOf? (m : LockManager) (h : Holder) : Option Mode := m.requests.modeOf? h

def isWaiting (m : LockManager) (ticket : Nat) : Bool :=
  m.waiting.any (fun c => c.ticket == ticket)

/-- The time limit of a call is over.  If the queue lets it through by now it returns as if nothing
had happened; otherwise it gives up and takes its own request back. -/
def expire (m : LockManager) (c : Call) : LockManager :=
  let rest := m.waiting.filter (fun d => d.ticket != c.ticket)
  if m.lets c then { m with waiting := rest }
  else
    let left := { m with waiting := rest, gaveUp := c.ticket :: m.gaveUp }
    if c.entered then { left with requests := m.requests.withdraw c.holder }.wake else left

/-- Lets the time limits of waiting calls run out one after another, the oldest first, until the
call with the given ticket has returned. -/
def elapse (m : LockManager) (ticket : Nat) : Nat → LockManager
  | 0 => m
  | steps + 1 =>
    if m.isWaiting ticket then
      match m.waiting with
      | [] => m
      | c :: _ => (m.expire c).elapse ticket steps
    else m

/-- Waits for a call with the given answer until it returns: granted, refused, or given up because
its time limit was over.  Without a time limit, a call that nothing lets through never returns. -/
def await (m : LockManager) : Answer → Option (Except Fault Unit) × LockManager
  | .granted => (some (.ok ()), m)
  | .refused => (some (.error .lockUpgrade), m)
  | .waiting ticket =>
    match m.timeout with
    | none => (if m.isWaiting ticket then none else some (.ok ()), m)
    | some limit =>
      let m := m.elapse ticket m.waiting.length
      (some (if m.gaveUp.contains ticket then .error (.lockTimeout limit) else .ok ()), m)

/-- Asks for a lock and waits for it. -/
def acquire (m : LockManager) (h : Holder) (mode : Mode) :
    Option (Except Fault Unit) × LockManager :=
  let (answer, m) := m.lock h mode
  m.await answer

/-- Whether a call with the given answer has returned. -/
def hasReturned (m : LockManager) : Answer → Bool
  | .waiting ticket => !m.isWaiting ticket
  | _ => true

end LockManager

end GraphCommit
