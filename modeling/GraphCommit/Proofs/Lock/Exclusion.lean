import GraphCommit.Proofs.Lock.Run

/-!
# Exclusion and stability of the lock

A call for the lock returns at once, or in the course of a later operation that lets it through
(`Obtains`).  A holder that has been let through to write has its request at the head of the queue
(`after_obtains`), and nothing but the release of all its locks takes it from there
(`after_keeps_exclusive`).  As long as it stands there nobody else is granted anything.

A holder that has a lock needs nobody to wait for: its calls return at once and leave the queue as
it is (`Returns`).
-/

namespace GraphCommit

namespace LockManager

open Lock

variable {m n : LockManager} {h k : Holder} {mode : Mode} {op : Operation}

/-- In the course of an operation a call of a holder for a mode returns without a fault: it is
granted at once, or it waited and now waits no longer, and has not given up. -/
def Obtains (m : LockManager) (op : Operation) (h : Holder) (mode : Mode) : Prop :=
  (op = .ask h mode ∧ (m.lock h mode).1 = .granted) ∨
  ∃ c ∈ m.waiting, c.holder = h ∧ c.mode = mode ∧ c ∉ (m.after op).waiting ∧
    c.ticket ∉ (m.after op).gaveUp

/-- A call of a holder returns at once with a result and changes nothing. -/
def Returns (m : LockManager) (h : Holder) (mode : Mode) (result : Except Fault Unit) : Prop :=
  ∃ answer, m.lock h mode = (answer, m) ∧ m.hasReturned answer = true ∧
    m.await answer = (some result, m)

/-! ## Holders with a lock -/

/-- No call of a holder waits that has a lock: it would wait for the request that is granted. -/
theorem Coherent.quiet_of_grants (hm : m.Coherent) (hgrants : m.requests.Grants h mode) :
    m.IsQuiet h := by
  rintro c hc rfl
  have hmode : c.mode = mode := hm.single.mode_unique (hm.entered c hc).2 hgrants.1
  have hblocked : m.requests.free c.holder c.mode = false := hm.blocked c hc
  rw [hmode, hgrants.2] at hblocked
  contradiction

theorem returns_of_grants {own : Mode} (hm : m.requests.IsSingle)
    (hgrants : m.requests.Grants h own) (mode : Mode) :
    m.Returns h mode
      (if own = .shared ∧ mode = .exclusive then .error .lockUpgrade else .ok ()) := by
  refine ⟨_, lock_of_grants hm hgrants mode, ?_⟩
  split
  · exact ⟨rfl, rfl⟩
  · exact ⟨rfl, rfl⟩

/-! ## Writers -/

/-- Who is let through to write has the write lock. -/
theorem after_obtains (hm : m.Coherent) (hop : m.TakesTurns op)
    (hobtains : m.Obtains op h .exclusive) : (m.after op).requests.Grants h .exclusive := by
  rcases hobtains with ⟨rfl, hgranted⟩ | ⟨c, hc, rfl, hmode, hreturned, hstays⟩
  · rcases lock_cases hm hop.2 .exclusive with
      ⟨own, hgrants, hlock⟩ | ⟨-, hfree, hlock⟩ | ⟨-, -, hlock⟩
    -- a reader would have been refused
    · have hown : own = .exclusive := by
        cases own with
        | shared => simp [hlock] at hgranted
        | exclusive => rfl
      subst hown
      show (m.lock h .exclusive).2.requests.Grants h .exclusive
      rw [hlock]
      exact hgrants
    · show (m.lock h .exclusive).2.requests.Grants h .exclusive
      rw [hlock]
      exact ⟨List.mem_append_right _ List.mem_cons_self, hfree⟩
    · simp [hlock] at hgranted
  · have hbusy : ¬ m.IsQuiet c.holder := fun hquiet => hquiet c hc rfl
    by_cases hown : op.holder? = some c.holder
    -- the only operation of a waiting holder is that its own call gives up
    · cases op with
      | register => contradiction
      | ask k other => exact absurd (Option.some.inj hown ▸ hop.2) hbusy
      | unlockRead k => exact absurd (Option.some.inj hown ▸ hop.2) hbusy
      | unlockAll k => exact absurd (Option.some.inj hown ▸ hop.2) hbusy
      | expire d =>
        have hsame : d = c :=
          List.inj_on_of_nodup_map hm.callers hop.2 hc (Option.some.inj hown)
        subst hsame
        rcases (expire_returned hm hc).result with ⟨-, hgrants⟩ | ⟨hgave, -⟩
        · exact hmode ▸ hgrants
        · exact absurd hgave hstays
    · obtain ⟨k, hne, hspares⟩ := after_spares hm hop hown
      rcases hspares.returned c hc (Ne.symm hne) with hstill | hgrants
      · exact absurd hstill hreturned
      · exact hmode ▸ hgrants

/-- Whatever is done, a writer keeps its lock until it releases everything. -/
theorem after_keeps_exclusive (hm : m.Coherent) (hop : m.TakesTurns op)
    (hunlock : op ≠ .unlockAll h) (hgrants : m.requests.Grants h .exclusive) :
    (m.after op).requests.Grants h .exclusive := by
  by_cases hown : op.holder? = some h
  · cases op with
    | register => contradiction
    | ask k mode =>
      obtain rfl : k = h := Option.some.inj hown
      show (m.lock k mode).2.requests.Grants k .exclusive
      rw [lock_of_grants hm.single hgrants mode]
      exact hgrants
    | unlockRead k =>
      obtain rfl : k = h := Option.some.inj hown
      show (m.unlockRead k).requests.Grants k .exclusive
      rw [unlockRead_of_exclusive hm.single hgrants.1]
      exact hgrants
    | unlockAll k =>
      obtain rfl : k = h := Option.some.inj hown
      exact absurd rfl hunlock
    | expire c =>
      exact absurd (Option.some.inj hown) (hm.quiet_of_grants hgrants c hop.2)
  · exact after_grants hm hop hown hgrants

/-- A writer keeps its lock in any run in which it does not release everything. -/
theorem keeps_exclusive_of_runs
    (hrun : Runs after (fun n op => n.TakesTurns op ∧ op ≠ .unlockAll h) m n) (hm : m.Coherent)
    (hgrants : m.requests.Grants h .exclusive) : n.requests.Grants h .exclusive := by
  have hkeeps : n.Coherent ∧ n.requests.Grants h .exclusive :=
    hrun.keeps (P := fun n => n.Coherent ∧ n.requests.Grants h .exclusive)
      (fun n op hn hop => ⟨after_coherent hn.1 hop.1,
        after_keeps_exclusive hn.1 hop.1 hop.2 hn.2⟩) ⟨hm, hgrants⟩
  exact hkeeps.2

/-! ## The whole statement -/

/-- What can be relied upon at a lock whose holders take turns with their calls. -/
structure IsSafe (m : LockManager) : Prop where
  /-- A holder that was let through to write has the write lock, and nobody else has any, as long as
  it does not release everything. -/
  alone : ∀ (m₀ : LockManager) op h, m₀.Reachable → m₀.TakesTurns op → m₀.Obtains op h .exclusive →
    Runs after (fun n op => n.TakesTurns op ∧ op ≠ .unlockAll h) (m₀.after op) m →
    m.requests.Grants h .exclusive ∧ ∀ k mode, k ≠ h → ¬ m.requests.Grants k mode
  /-- A granted lock is never taken away by what is done for another holder. -/
  kept : ∀ op h mode, m.TakesTurns op → op.holder? ≠ some h → m.requests.Grants h mode →
    (m.after op).requests.Grants h mode
  /-- Who has a lock may read at once. -/
  reads : ∀ h mode, m.requests.Grants h mode → m.Returns h .shared (.ok ())
  /-- Who has the write lock may write at once. -/
  writes : ∀ h, m.requests.Grants h .exclusive → m.Returns h .exclusive (.ok ())
  /-- Who has the read lock is refused the write lock at once. -/
  refuses : ∀ h, m.requests.Grants h .shared → m.Returns h .exclusive (.error .lockUpgrade)
  /-- Releasing the read lock of a holder that asked for the write lock changes nothing. -/
  unlocks : ∀ h, ⟨h, .exclusive⟩ ∈ m.requests → m.unlockRead h = m

/-- The lock excludes and keeps what it grants, at any time of any run. -/
theorem grants_safely (hm : m.Reachable) : m.IsSafe where
  alone := by
    intro m₀ op h hreach hop hobtains hrun
    have hcoherent := hreach.coherent
    have hgrants : m.requests.Grants h .exclusive :=
      keeps_exclusive_of_runs hrun (after_coherent hcoherent hop)
        (after_obtains hcoherent hop hobtains)
    exact ⟨hgrants, fun k mode hne hother =>
      hne (hgrants.eq_of_exclusive hm.coherent.single hother)⟩
  kept := fun op h mode hop hother hgrants => after_grants hm.coherent hop hother hgrants
  reads := fun h mode hgrants => by
    simpa using returns_of_grants hm.coherent.single hgrants .shared
  writes := fun h hgrants => by
    simpa using returns_of_grants hm.coherent.single hgrants .exclusive
  refuses := fun h hgrants => by
    simpa using returns_of_grants hm.coherent.single hgrants .exclusive
  unlocks := fun h hmem => unlockRead_of_exclusive hm.coherent.single hmem

/-- Two holders ask for the write lock: the first has it, the second waits. -/
theorem grants_safely_writing :
    ∃ m : LockManager, m.Reachable ∧ m.requests.Grants ⟨1⟩ .exclusive ∧
      m.isWaiting 0 = true ∧ m.IsSafe := by
  have hreach : (((((({ } : LockManager).after .register).after .register).after
      (.ask ⟨1⟩ .exclusive)).after (.ask ⟨2⟩ .exclusive))).Reachable := by
    have hnew : ({ } : LockManager).Reachable := ⟨{ }, rfl, .refl _⟩
    exact (((hnew.after (by decide)).after (by decide)).after (by decide)).after (by decide)
  exact ⟨_, hreach, ⟨by decide, by decide⟩, by decide, grants_safely hreach⟩

end LockManager

end GraphCommit
