import GraphCommit.Lock.Manager
import Mathlib.Data.List.Basic

/-!
# Holders under other names

The lock tells holders from each other and knows nothing else of them.  So a lock whose holders go
by other names does the same under these names: a call is answered in the same way, with the same
ticket, and leaves the renamed queue behind.  Only holders that have not been registered yet have no
choice of a name, for the lock numbers its holders itself: there more of them may have been
registered, and then the next one there has the name of the next one here.
-/

namespace GraphCommit

namespace Lock

def Request.rename (π : Holder → Holder) (r : Request) : Request := { r with holder := π r.holder }

def Call.rename (π : Holder → Holder) (c : Call) : Call := { c with holder := π c.holder }

namespace Queue

def rename (π : Holder → Holder) (q : Queue) : Queue := q.map (Request.rename π)

variable {π : Holder → Holder} (hπ : Function.Injective π)

include hπ

theorem beq_rename (h k : Holder) : (π h == π k) = (h == k) := by
  rw [Bool.eq_iff_iff, beq_iff_eq, beq_iff_eq]
  exact hπ.eq_iff

theorem holds_rename (q : Queue) (h : Holder) : (q.rename π).holds (π h) = q.holds h := by
  simp only [rename, holds, List.any_map, Function.comp_def, Request.rename, beq_rename hπ]

theorem modeOf?_rename (q : Queue) (h : Holder) : (q.rename π).modeOf? (π h) = q.modeOf? h := by
  simp only [rename, modeOf?, List.find?_map, Function.comp_def, Request.rename, beq_rename hπ,
    Option.map_map]

theorem freeToRead_rename (q : Queue) (h : Holder) :
    (q.rename π).freeToRead (π h) = q.freeToRead h := by
  induction q with
  | nil => rfl
  | cons r rest ih =>
    have hsame : (Request.rename π r).holder = π h ↔ r.holder = h := hπ.eq_iff
    change (if (Request.rename π r).holder = π h then true
      else if r.mode = .exclusive then false else freeToRead (rename π rest) (π h)) = _
    simp only [hsame, ih, freeToRead]

theorem free_rename (q : Queue) (h : Holder) (mode : Mode) :
    (q.rename π).free (π h) mode = q.free h mode := by
  cases mode with
  | shared => exact freeToRead_rename hπ q h
  | exclusive =>
    cases q with
    | nil => rfl
    | cons r rest => exact beq_rename hπ r.holder h

omit hπ in
theorem enter_rename (q : Queue) (h : Holder) (mode : Mode) :
    (q.rename π).enter (π h) mode = (q.enter h mode).rename π := by
  simp [rename, enter, Request.rename]

theorem withdraw_rename (q : Queue) (h : Holder) :
    (q.rename π).withdraw (π h) = (q.withdraw h).rename π := by
  simp only [rename, withdraw, List.eraseP_map, Function.comp_def, Request.rename, beq_rename hπ]

theorem releaseRead_rename (q : Queue) (h : Holder) :
    (q.rename π).releaseRead (π h) = (q.releaseRead h).rename π := by
  simp only [rename, releaseRead, List.eraseP_map, Function.comp_def, Request.rename,
    beq_rename hπ]

theorem releaseAll_rename (q : Queue) (h : Holder) :
    (q.rename π).releaseAll (π h) = (q.releaseAll h).rename π := by
  simp only [rename, releaseAll, List.filter_map, Function.comp_def, Request.rename, bne,
    beq_rename hπ]

end Queue

end Lock

namespace LockManager

open Lock

/-- The lock where holders go by other names and `n` of them have been registered. -/
def rename (π : Holder → Holder) (n : Nat) (m : LockManager) : LockManager :=
  { m with
    requests := m.requests.rename π
    waiting := m.waiting.map (Call.rename π)
    registered := n }

variable {π : Holder → Holder} {n : Nat}

/-- Nothing but the count is changed if the holders that occur keep their names. -/
theorem rename_of_same {m : LockManager} (hrequests : ∀ r ∈ m.requests, π r.holder = r.holder)
    (hwaiting : ∀ c ∈ m.waiting, π c.holder = c.holder) :
    m.rename π n = { m with registered := n } := by
  have hqueue : m.requests.rename π = m.requests := calc
    m.requests.map (Request.rename π)
        = m.requests.map id := List.map_congr_left fun r hr => by
          rw [Request.rename, hrequests r hr]
          rfl
    _ = m.requests := List.map_id _
  have hcalls : m.waiting.map (Call.rename π) = m.waiting := calc
    m.waiting.map (Call.rename π)
        = m.waiting.map id := List.map_congr_left fun c hc => by
          rw [Call.rename, hwaiting c hc]
          rfl
    _ = m.waiting := List.map_id _
  rw [rename, hqueue, hcalls]

/-! ## What is seen -/

theorem isWaiting_rename (m : LockManager) (ticket : Nat) :
    (m.rename π n).isWaiting ticket = m.isWaiting ticket := by
  simp only [isWaiting, rename, List.any_map, Function.comp_def, Call.rename]

theorem mem_waiting_rename (hπ : Function.Injective π) {m : LockManager} {c : Call} :
    c.rename π ∈ (m.rename π n).waiting ↔ c ∈ m.waiting := by
  refine List.mem_map_of_injective ?_
  rintro ⟨ticket, h, mode, entered⟩ ⟨ticket', h', mode', entered'⟩ hsame
  obtain ⟨rfl, hholder, rfl, rfl⟩ := Call.mk.inj hsame
  obtain rfl := hπ hholder
  rfl

/-! ## What is done -/

theorem register_rename (m : LockManager) (hnext : π ⟨m.registered + 1⟩ = ⟨n + 1⟩) :
    (m.rename π n).register = (π m.register.1, m.register.2.rename π (n + 1)) :=
  congrArg (fun h => (h, m.register.2.rename π (n + 1))) hnext.symm

variable (hπ : Function.Injective π)

include hπ

theorem lets_rename (m : LockManager) (c : Call) : (m.rename π n).lets (c.rename π) = m.lets c :=
  Queue.free_rename hπ m.requests c.holder c.mode

theorem wake_rename (m : LockManager) : (m.rename π n).wake = m.wake.rename π n := by
  have hwaiting : (m.rename π n).waiting.filter (fun c => !(m.rename π n).lets c) =
      (m.waiting.filter fun c => !m.lets c).map (Call.rename π) := by
    simp only [rename, List.filter_map, Function.comp_def]
    refine congrArg _ (List.filter_congr fun c _ => ?_)
    exact congrArg _ (lets_rename hπ m c)
  simp only [wake, hwaiting]
  rfl

theorem proceed_rename (m : LockManager) (h : Holder) (mode : Mode) (entered : Bool) :
    (m.rename π n).proceed (π h) mode entered =
      ((m.proceed h mode entered).1, (m.proceed h mode entered).2.rename π n) := by
  have hfree : (m.rename π n).requests.free (π h) mode = m.requests.free h mode :=
    Queue.free_rename hπ m.requests h mode
  unfold proceed
  rw [hfree]
  split
  · rfl
  · simp [rename, Call.rename]

theorem lock_rename (m : LockManager) (h : Holder) (mode : Mode) :
    (m.rename π n).lock (π h) mode = ((m.lock h mode).1, (m.lock h mode).2.rename π n) := by
  have henter : { m.rename π n with requests := (m.rename π n).requests.enter (π h) mode } =
      rename π n { m with requests := m.requests.enter h mode } := by
    simp only [rename, Queue.enter_rename]
  cases mode with
  | shared =>
    have hholds : (m.rename π n).requests.holds (π h) = m.requests.holds h :=
      Queue.holds_rename hπ m.requests h
    simp only [lock, lockToRead, hholds, henter]
    split
    · exact proceed_rename hπ m h .shared false
    · exact proceed_rename hπ _ h .shared true
  | exclusive =>
    have hmode : (m.rename π n).requests.modeOf? (π h) = m.requests.modeOf? h :=
      Queue.modeOf?_rename hπ m.requests h
    simp only [lock, lockToWrite, hmode, henter]
    cases m.requests.modeOf? h with
    | none => exact proceed_rename hπ _ h .exclusive true
    | some mode =>
      cases mode with
      | shared => rfl
      | exclusive => exact proceed_rename hπ m h .exclusive false

theorem unlockRead_rename (m : LockManager) (h : Holder) :
    (m.rename π n).unlockRead (π h) = (m.unlockRead h).rename π n := by
  have hany : (m.rename π n).requests.any (fun r => r.holder == π h && r.mode == .shared) =
      m.requests.any fun r => r.holder == h && r.mode == .shared := by
    simp only [rename, Queue.rename, List.any_map, Function.comp_def, Request.rename,
      Queue.beq_rename hπ]
  have hrelease : { m.rename π n with requests := (m.rename π n).requests.releaseRead (π h) } =
      rename π n { m with requests := m.requests.releaseRead h } := by
    simp only [rename, Queue.releaseRead_rename hπ]
  unfold unlockRead
  rw [hany, hrelease, wake_rename hπ]
  split <;> rfl

theorem unlockAll_rename (m : LockManager) (h : Holder) :
    (m.rename π n).unlockAll (π h) = (m.unlockAll h).rename π n := by
  have hrelease : { m.rename π n with requests := (m.rename π n).requests.releaseAll (π h) } =
      rename π n { m with requests := m.requests.releaseAll h } := by
    simp only [rename, Queue.releaseAll_rename hπ]
  unfold unlockAll
  rw [hrelease, wake_rename hπ]

theorem expire_rename (m : LockManager) (c : Call) :
    (m.rename π n).expire (c.rename π) = (m.expire c).rename π n := by
  have hrest : (m.rename π n).waiting.filter (fun d => d.ticket != c.ticket) =
      (m.waiting.filter fun d => d.ticket != c.ticket).map (Call.rename π) := by
    simp only [rename, List.filter_map, Function.comp_def, Call.rename]
  have hwithdraw : (m.rename π n).requests.withdraw (π c.holder) =
      (m.requests.withdraw c.holder).rename π := Queue.withdraw_rename hπ m.requests c.holder
  have hlets : (m.rename π n).lets (c.rename π) = m.lets c := lets_rename hπ m c
  obtain ⟨ticket, h, mode, entered⟩ := c
  unfold expire
  rw [hlets]
  dsimp only [Call.rename] at hrest hwithdraw ⊢
  rw [hrest, hwithdraw]
  by_cases hfree : m.lets ⟨ticket, h, mode, entered⟩ = true
  · rw [if_pos hfree, if_pos hfree]
    rfl
  · rw [if_neg hfree, if_neg hfree]
    cases entered with
    | true =>
      exact wake_rename hπ { m with
        requests := m.requests.withdraw h
        waiting := m.waiting.filter fun d => d.ticket != ticket
        gaveUp := ticket :: m.gaveUp }
    | false => rfl

omit hπ in
/-- Only registering changes how many holders were handed out. -/
theorem registered_lock (m : LockManager) (h : Holder) (mode : Mode) :
    (m.lock h mode).2.registered = m.registered := by
  have hproceed : ∀ (l : LockManager) (mode : Mode) (entered : Bool),
      (l.proceed h mode entered).2.registered = l.registered := by
    intro l mode entered
    unfold proceed
    split <;> rfl
  cases mode with
  | shared =>
    simp only [lock, lockToRead]
    split <;> exact hproceed _ _ _
  | exclusive =>
    simp only [lock, lockToWrite]
    split
    · rfl
    · exact hproceed _ _ _
    · exact hproceed _ _ _

omit hπ in
theorem registered_unlockRead (m : LockManager) (h : Holder) :
    (m.unlockRead h).registered = m.registered := by
  unfold unlockRead
  split <;> rfl

omit hπ in
theorem registered_expire (m : LockManager) (c : Call) :
    (m.expire c).registered = m.registered := by
  unfold expire
  dsimp only
  split
  · rfl
  · split <;> rfl

end LockManager

end GraphCommit
