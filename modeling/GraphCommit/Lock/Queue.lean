/-!
# The queue of lock requests

Requests for the one repository stand in the order of their arrival, granted or not.  A shared
request is granted once no exclusive request of another holder stands before it, an exclusive one
once no request of another holder does.  A granted request stays in the queue until it is
released, so what is granted follows from the places in the queue alone.  Later requests take
nothing from it (`freeToRead_append`).
-/

namespace GraphCommit

/-- Identity of a lock holder. -/
structure Holder where
  number : Nat
  deriving DecidableEq, Repr, Inhabited

def Holder.text (h : Holder) : String := "holder-" ++ toString h.number

namespace Lock

inductive Mode where
  | shared
  | exclusive
  deriving DecidableEq, Repr

/-- What a holder asked for. -/
structure Request where
  holder : Holder
  mode : Mode
  deriving DecidableEq, Repr

/-- The requests in the order of their arrival. -/
abbrev Queue := List Request

namespace Queue

/-- The mode in which a holder stands in the queue, at its first place. -/
def modeOf? (q : Queue) (h : Holder) : Option Mode :=
  (q.find? (fun r => r.holder == h)).map Request.mode

/-- Whether a holder stands in the queue. -/
def holds (q : Queue) (h : Holder) : Bool := q.any (fun r => r.holder == h)

/-- Whether no exclusive request of another holder stands before the holder's first request.  A
holder without a request may not read. -/
def freeToRead : Queue → Holder → Bool
  | [], _ => false
  | r :: rest, h =>
    if r.holder = h then true
    else if r.mode = .exclusive then false
    else freeToRead rest h

/-- Whether the holder's request is the first one. -/
def freeToWrite : Queue → Holder → Bool
  | [], _ => false
  | r :: _, h => r.holder == h

/-- Whether a call that asked for a mode may go on. -/
def free (q : Queue) (h : Holder) : Mode → Bool
  | .shared => q.freeToRead h
  | .exclusive => q.freeToWrite h

/-- Puts a request at the end. -/
def enter (q : Queue) (h : Holder) (m : Mode) : Queue := q ++ [⟨h, m⟩]

/-- Takes the first request of a holder out. -/
def withdraw (q : Queue) (h : Holder) : Queue := q.eraseP (fun r => r.holder == h)

/-- Takes the first shared request of a holder out. -/
def releaseRead (q : Queue) (h : Holder) : Queue :=
  q.eraseP (fun r => r.holder == h && r.mode == .shared)

/-- Takes every request of a holder out. -/
def releaseAll (q : Queue) (h : Holder) : Queue := q.filter (fun r => r.holder != h)

/-- The requests that are granted: the first one alone if it is exclusive, otherwise the shared
ones up to the first exclusive one. -/
def granted : Queue → List Request
  | [] => []
  | r :: rest =>
    if r.mode = .exclusive then [r] else r :: rest.takeWhile (fun s => s.mode == .shared)

theorem holds_iff (q : Queue) (h : Holder) : q.holds h = true ↔ ∃ r ∈ q, r.holder = h := by
  simp [holds]

@[simp] theorem mem_releaseAll (q : Queue) (h : Holder) (r : Request) :
    r ∈ q.releaseAll h ↔ r ∈ q ∧ r.holder ≠ h := by
  simp [releaseAll]

/-- A later request takes nothing from those before it. -/
theorem freeToRead_append (q later : Queue) (h : Holder) (hfree : q.freeToRead h = true) :
    freeToRead (q ++ later) h = true := by
  induction q with
  | nil => simp [freeToRead] at hfree
  | cons r rest ih =>
    simp only [List.cons_append, freeToRead] at hfree ⊢
    split
    · rfl
    · next hr =>
      rw [if_neg hr] at hfree
      split
      · next hm => simp [hm] at hfree
      · next hm => exact ih (by simpa [hm] using hfree)

end Queue

end Lock

end GraphCommit
