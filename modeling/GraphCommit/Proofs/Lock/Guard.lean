import GraphCommit.Lock.Guard
import GraphCommit.Proofs.Lock.Overlap

/-!
# What a guard protects from

A guard should keep the writers of other holders out until it is dropped.  It does so as long as the
request that its holder had when the guard was made stays in the queue (`guard_protects`).  That
request is not the guard's own: a holder has one, and every guard of the holder releases it.

So of two guards of a holder the first one that is dropped takes the lock away from the other, which
lives on and protects from nothing (`guard_outlives_lock`).  The same happens when a guard was made
while a call of its holder for the write lock waited, and that call gives up.
-/

namespace GraphCommit

namespace GuardedLock

open Lock LockManager

/-- What may be done with a lock and its guards. -/
inductive Use where
  | read (h : Holder)
  | drop (guard : Guard)
  /-- A call of the lock that makes no guard. -/
  | call (op : Lock.Operation)
  deriving DecidableEq, Repr

/-- What is done with the lock itself. -/
def Use.onLock : Use → Lock.Operation
  | .read h => .ask h .shared
  | .drop guard => .unlockRead guard.holder
  | .call op => op

variable {g g' : GuardedLock} {h k : Holder} {use : Use} {guard : Guard}

def perform (g : GuardedLock) : Use → GuardedLock
  | .read h => g.read h
  | .drop guard => g.drop guard
  | .call op => { g with locks := g.locks.after op }.settle

/-- Only a living guard can be dropped. -/
def MayUse (g : GuardedLock) : Use → Prop
  | .drop guard => guard ∈ g.live
  | use => g.locks.IsPossible use.onLock

instance : (g : GuardedLock) → (use : Use) → Decidable (g.MayUse use)
  | g, .drop guard => inferInstanceAs (Decidable (guard ∈ g.live))
  | g, .read h => inferInstanceAs (Decidable (g.locks.IsPossible (.ask h .shared)))
  | g, .call op => inferInstanceAs (Decidable (g.locks.IsPossible op))

/-- What a lock without guards comes to, whatever calls overlap. -/
def IsReached (g : GuardedLock) : Prop :=
  ∃ m : LockManager, m.IsNew ∧ Runs perform MayUse { locks := m } g

/-- Whether a use takes the request of a holder out of the queue. -/
def Loses (g : GuardedLock) (h : Holder) (use : Use) : Prop := g.locks.Releases h use.onLock

instance (g : GuardedLock) (h : Holder) (use : Use) : Decidable (g.Loses h use) :=
  inferInstanceAs (Decidable (g.locks.Releases h use.onLock))

theorem MayUse.isPossible (huse : g.MayUse use) : g.locks.IsPossible use.onLock := by
  cases use with
  | drop guard => exact trivial
  | read h => exact huse
  | call op => exact huse

/-- Guards do not change what is done with the lock. -/
theorem locks_perform (g : GuardedLock) (use : Use) :
    (g.perform use).locks = g.locks.after use.onLock := by
  cases use with
  | drop guard => rfl
  | call op => rfl
  | read h =>
    change (g.read h).locks = (g.locks.lockToRead h).2
    unfold read
    rcases g.locks.lockToRead h with ⟨_ | _ | ticket, locks⟩ <;> rfl

/-- A read asks for the lock.  Its guard lives if it is granted, and is awaited if it waits. -/
theorem read_asks (g : GuardedLock) (h : Holder) :
    ∃ answer, Asked g.locks h .shared answer (g.read h).locks ∧
      (∀ guard ∈ (g.read h).live, guard ∈ g.live ∨ answer = .granted ∧ guard = ⟨g.made, h⟩) ∧
      ∀ a ∈ (g.read h).awaited,
        a ∈ g.awaited ∨ ∃ ticket, answer = .waiting ticket ∧ a = (ticket, ⟨g.made, h⟩) := by
  refine ⟨(g.locks.lockToRead h).1, ?_⟩
  have hasked : Asked g.locks h .shared (g.locks.lockToRead h).1 (g.locks.lockToRead h).2 :=
    asked_lock g.locks h .shared
  unfold read
  generalize g.locks.lockToRead h = outcome at hasked ⊢
  obtain ⟨_ | _ | ticket, locks⟩ := outcome
  · refine ⟨hasked, fun guard hlive => ?_, fun a ha => Or.inl ha⟩
    exact (List.mem_append.mp hlive).imp id fun hnew => ⟨rfl, List.mem_singleton.mp hnew⟩
  · exact ⟨hasked, fun guard hlive => Or.inl hlive, fun a ha => Or.inl ha⟩
  · refine ⟨hasked, fun guard hlive => Or.inl hlive, fun a ha => ?_⟩
    exact (List.mem_append.mp ha).imp id fun hnew => ⟨ticket, rfl, List.mem_singleton.mp hnew⟩

/-! ## Guards and the calls that they were made by -/

/-- A guard that is awaited is awaited by a call for the read lock. -/
structure Tracks (g : GuardedLock) : Prop where
  sound : g.locks.Sound
  awaited : ∀ a ∈ g.awaited, ∃ entered, ⟨a.1, a.2.holder, .shared, entered⟩ ∈ g.locks.waiting

/-- A ticket that is still waited for belongs to the same call as before. -/
theorem Tracks.still_waiting (hg : g.Tracks) (op : Lock.Operation) {a : Nat × Guard}
    (ha : a ∈ g.awaited) (hwaits : (g.locks.after op).isWaiting a.1 = true) :
    ∃ entered, ⟨a.1, a.2.holder, .shared, entered⟩ ∈ (g.locks.after op).waiting := by
  obtain ⟨entered, hcall⟩ := hg.awaited a ha
  obtain ⟨c, hc, hticket⟩ : ∃ c ∈ (g.locks.after op).waiting, c.ticket = a.1 := by
    simpa [isWaiting] using hwaits
  have hissued : a.1 < g.locks.tickets := hg.sound.issued _ hcall
  rcases waiting_after op hc with hold | ⟨hnew, -⟩
  · have hsame := List.inj_on_of_nodup_map hg.sound.tickets hold hcall hticket
    exact ⟨entered, hsame ▸ hc⟩
  · omega

theorem Tracks.perform (hg : g.Tracks) (huse : g.MayUse use) : (g.perform use).Tracks := by
  have hlocks := locks_perform g use
  have hsound := after_sound hg.sound huse.isPossible
  refine ⟨hlocks ▸ hsound, ?_⟩
  cases use with
  | drop guard =>
    intro a ha
    obtain ⟨hold, hwaits⟩ := List.mem_filter.mp ha
    exact hg.still_waiting (.unlockRead guard.holder) hold hwaits
  | call op =>
    intro a ha
    obtain ⟨hold, hwaits⟩ := List.mem_filter.mp ha
    exact hg.still_waiting op hold hwaits
  | read h =>
    intro a ha
    obtain ⟨answer, hasked, -, hawaited⟩ := read_asks g h
    rcases hawaited a ha with hold | ⟨ticket, rfl, rfl⟩
    · obtain ⟨entered, hcall⟩ := hg.awaited a hold
      exact ⟨entered, hasked.keeps_waiting hcall⟩
    · exact hasked.call_of_waiting

theorem IsReached.tracks (hg : g.IsReached) : g.Tracks := by
  obtain ⟨m, hnew, hrun⟩ := hg
  exact hrun.keeps (fun _ _ hg huse => hg.perform huse) ⟨hnew.sound, by simp⟩

/-- Who is handed a guard may read. -/
theorem Tracks.reads_of_returned (hg : g.Tracks) {op : Lock.Operation}
    (hop : g.locks.IsPossible op) {a : Nat × Guard} (ha : a ∈ g.awaited)
    (hreturned : (g.locks.after op).isWaiting a.1 = false)
    (hstays : a.1 ∉ (g.locks.after op).gaveUp) :
    (g.locks.after op).requests.freeToRead a.2.holder = true := by
  obtain ⟨entered, hcall⟩ := hg.awaited a ha
  refine lets_of_returned hg.sound hop hcall (fun hstill => ?_) hstays
  have hwaits : (g.locks.after op).isWaiting a.1 = true :=
    List.any_eq_true.mpr ⟨_, hstill, by simp⟩
  rw [hreturned] at hwaits
  contradiction

/-- The guards of calls that have returned. -/
theorem mem_live_settle (g : GuardedLock) (guard : Guard) :
    guard ∈ g.settle.live ↔ guard ∈ g.live ∨
      ∃ ticket, (ticket, guard) ∈ g.awaited ∧ g.locks.isWaiting ticket = false ∧
        ticket ∉ g.locks.gaveUp := by
  simp [settle, and_comm]

/-- The holder of a new guard may read. -/
theorem Tracks.reads_of_obtained (hg : g.Tracks) (huse : g.MayUse use) (hnew : guard ∉ g.live)
    (hlive : guard ∈ (g.perform use).live) :
    (g.perform use).locks.requests.freeToRead guard.holder = true := by
  rw [locks_perform]
  cases use with
  | drop dropped =>
    rcases (mem_live_settle _ _).mp hlive with hold | ⟨ticket, ha, hreturned, hstays⟩
    · exact absurd (List.mem_of_mem_erase hold) hnew
    · have hop : g.locks.IsPossible (.unlockRead dropped.holder) := trivial
      exact hg.reads_of_returned hop ha hreturned hstays
  | call op =>
    rcases (mem_live_settle _ _).mp hlive with hold | ⟨ticket, ha, hreturned, hstays⟩
    · exact absurd hold hnew
    · exact hg.reads_of_returned huse.isPossible ha hreturned hstays
  | read h =>
    obtain ⟨answer, hasked, hmade, -⟩ := read_asks g h
    rcases hmade guard hlive with hold | ⟨rfl, rfl⟩
    · exact absurd hold hnew
    · have hlocks : (g.read h).locks = g.locks.after (.ask h .shared) := locks_perform g (.read h)
      exact hlocks ▸ hasked.free_of_granted

/-! ## What a holder that may read is protected from -/

/-- While a holder may read, its request is granted unless a call of it waits for more. -/
theorem grants_of_reads {m : LockManager} (hm : m.Sound)
    (hreads : m.requests.freeToRead h = true) (hquiet : m.IsQuiet h) :
    ∃ mode, m.requests.Grants h mode := by
  obtain ⟨⟨holder, mode⟩, hr, rfl⟩ := (Queue.holds_iff _ _).mp (Queue.holds_of_freeToRead hreads)
  rcases hm.attended _ hr with hfree | ⟨c, hc, hholder, -⟩
  · exact ⟨mode, hr, hfree⟩
  · exact absurd hholder (hquiet c hc)

/-- While a holder may read, no other one has the write lock. -/
theorem not_grants_of_reads {m : LockManager} (hm : m.Sound)
    (hreads : m.requests.freeToRead h = true) (hk : k ≠ h) :
    ¬ m.requests.Grants k .exclusive := by
  rintro ⟨hmem, hwrites⟩
  have hshared := Queue.mode_head_of_freeToRead hreads hk hwrites
  exact absurd (hm.single.mode_unique hshared hmem) (by simp)

/-- While a holder may read, no other one that asks for the write lock is let through. -/
theorem not_granted_of_reads {m : LockManager} (hm : m.Sound)
    (hreads : m.requests.freeToRead h = true) (hk : k ≠ h) :
    (m.lock k .exclusive).1 ≠ .granted := by
  intro hgranted
  cases hholds : m.requests.holds k with
  | false =>
    -- the new request stands behind the one of the reader
    have hfree : (m.requests.enter k .exclusive).freeToWrite k = true := by
      by_contra hblocked
      rw [lock_of_absent hholds, proceed] at hgranted
      simp only [Queue.free, hblocked] at hgranted
      contradiction
    have hstill := Queue.freeToRead_append m.requests [⟨k, .exclusive⟩] h hreads
    have hmem : ⟨k, .shared⟩ ∈ m.requests ++ [⟨k, .exclusive⟩] :=
      Queue.mode_head_of_freeToRead hstill hk hfree
    rcases List.mem_append.mp hmem with hold | hlast
    · exact Queue.not_holds hholds hold rfl
    · simp at hlast
  | true =>
    obtain ⟨⟨holder, mode⟩, hr, rfl⟩ := (Queue.holds_iff _ _).mp hholds
    have hmode : m.requests.modeOf? holder = some mode := by
      cases hmode : m.requests.modeOf? holder with
      | none => exact (Queue.modeOf?_eq_none hmode hr).elim
      | some first => rw [hm.single.mode_unique (Queue.mem_of_modeOf?_eq_some hmode) hr]
    cases mode with
    | shared => simp [lock, lockToWrite, hmode] at hgranted
    | exclusive =>
      have hblocked : m.requests.freeToWrite holder = false := by
        by_contra hfree
        exact not_grants_of_reads hm hreads hk ⟨hr, by simpa [Queue.free] using hfree⟩
      simp [lock, lockToWrite, hmode, proceed, Queue.free, hblocked] at hgranted

/-! ## The whole statement -/

/-- A holder is protected from the writers of others. -/
structure Protects (g : GuardedLock) (h : Holder) : Prop where
  /-- It stands in the queue, and no writer stands before it. -/
  reads : g.locks.requests.freeToRead h = true
  /-- Its request is granted, unless a call of its own waits for the write lock meanwhile. -/
  granted : g.locks.IsQuiet h → ∃ mode, g.locks.requests.Grants h mode
  /-- No other holder has the write lock. -/
  alone : ∀ k, k ≠ h → ¬ g.locks.requests.Grants k .exclusive
  /-- No other holder that asks for the write lock is let through. -/
  asks : ∀ k, k ≠ h → (g.locks.lock k .exclusive).1 ≠ .granted
  /-- Nor is one that waits for it, unless it reads meanwhile. -/
  waits : ∀ c ∈ g.locks.waiting, c.holder ≠ h → c.mode = .exclusive →
    ⟨c.holder, .shared⟩ ∉ g.locks.requests → g.locks.lets c = false
  /-- The protection ends when the holder loses its request, and not before. -/
  ends : ∀ use, g.MayUse use →
    ((g.perform use).locks.requests.freeToRead h = true ↔ ¬ g.Loses h use)

theorem Tracks.protects (hg : g.Tracks) (hreads : g.locks.requests.freeToRead h = true) :
    g.Protects h where
  reads := hreads
  granted := grants_of_reads hg.sound hreads
  alone := fun _ hk => not_grants_of_reads hg.sound hreads hk
  asks := fun _ hk => not_granted_of_reads hg.sound hreads hk
  waits := by
    intro c hc hother hmode hnone
    by_contra hlets
    have hwrites : g.locks.requests.free c.holder c.mode = true := by simpa [lets] using hlets
    rw [hmode] at hwrites
    exact hnone (Queue.mode_head_of_freeToRead hreads hother hwrites)
  ends := by
    intro use huse
    rw [locks_perform]
    exact after_reads_iff hg.sound hreads use.onLock

/-- From the moment that a guard is made its holder is protected, until it loses its request. -/
theorem guard_protects (hg : g.IsReached) (huse : g.MayUse use) (hnew : guard ∉ g.live)
    (hlive : guard ∈ (g.perform use).live)
    (hrun : Runs perform (fun u use => u.MayUse use ∧ ¬ u.Loses guard.holder use)
      (g.perform use) g') : g'.Protects guard.holder := by
  have hstart : (g.perform use).Tracks ∧
      (g.perform use).locks.requests.freeToRead guard.holder = true :=
    ⟨hg.tracks.perform huse, hg.tracks.reads_of_obtained huse hnew hlive⟩
  have hend : g'.Tracks ∧ g'.locks.requests.freeToRead guard.holder = true :=
    hrun.keeps (P := fun u => u.Tracks ∧ u.locks.requests.freeToRead guard.holder = true)
      (fun u use hu hallowed => ⟨hu.1.perform hallowed.1,
        ((hu.1.protects hu.2).ends use hallowed.1).mpr hallowed.2⟩) hstart
  exact hend.1.protects hend.2

/-- A lock that has handed out two holders. -/
def twoHolders : GuardedLock := (({ } : GuardedLock).perform (.call .register)).perform
  (.call .register)

/-- A holder reads twice at a time while another one waits to write. -/
theorem guard_protects_reading :
    ∃ g : GuardedLock, g.live = [⟨0, ⟨1⟩⟩, ⟨1, ⟨1⟩⟩] ∧ g.locks.isWaiting 0 = true ∧
      g.Protects ⟨1⟩ := by
  have hstart : twoHolders.IsReached :=
    ⟨{ }, rfl, ((Runs.refl _).then (Use.call .register) (by decide)).then (Use.call .register)
      (by decide)⟩
  refine ⟨((twoHolders.perform (.read ⟨1⟩)).perform (.read ⟨1⟩)).perform
    (.call (.ask ⟨2⟩ .exclusive)), by decide, by decide, ?_⟩
  refine guard_protects hstart (by decide : twoHolders.MayUse (.read ⟨1⟩))
    (by decide : (⟨0, ⟨1⟩⟩ : Guard) ∉ _) (by decide) ?_
  exact ((Runs.refl _).then (Use.read ⟨1⟩) (by decide)).then (Use.call (.ask ⟨2⟩ .exclusive))
    (by decide)

/-- Whether a use is a release that somebody asks for, and not that of a guard. -/
def Use.isUnlock : Use → Bool
  | .call (.unlockRead _) => true
  | .call (.unlockAll _) => true
  | _ => false

/-- A guard lives although the lock is free for any writer: another guard of its holder was dropped,
and nobody has asked for a release. -/
theorem guard_outlives_lock :
    ¬ ∀ g : GuardedLock,
      Runs perform (fun u use => u.MayUse use ∧ use.isUnlock = false) twoHolders g →
      ∀ guard ∈ g.live, (∃ mode, g.locks.requests.Grants guard.holder mode) ∨
        ∀ k, k ≠ guard.holder → (g.locks.lock k .exclusive).1 ≠ .granted := by
  intro hprotects
  have hdropped := hprotects _ ((((Runs.refl _).then (Use.read ⟨1⟩) (by decide)).then
    (Use.read ⟨1⟩) (by decide)).then (Use.drop ⟨1, ⟨1⟩⟩) (by decide))
  rcases hdropped ⟨0, ⟨1⟩⟩ (by decide) with ⟨mode, hmem, -⟩ | hwaits
  · cases mode <;> exact absurd hmem (by decide)
  · exact hwaits ⟨2⟩ (by decide) (by decide)

end GuardedLock

end GraphCommit
