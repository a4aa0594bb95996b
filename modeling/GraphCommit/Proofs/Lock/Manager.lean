import GraphCommit.Lock.Manager
import GraphCommit.Proofs.Lock.Queue

/-!
# Coherence of the lock

When no holder calls while one of its calls waits, the lock manager stays coherent: a request that
no call waits for is granted, and a call that waits is one that the queue does not let through.  So
the queue alone tells what a holder may do, and three things can be said of a holder between calls:

* it *rests*: it has no read lock, and if it has the write lock, that is granted;
* it *holds* a mode: it may do what that mode allows;
* it *awaits* a ticket: its call waits, or has returned and was let through, or gave up.

Every operation on behalf of one holder keeps the manager coherent and spares the others: what they
held they hold, and what they await they still await (`Spares`).
-/

namespace GraphCommit

namespace LockManager

open Lock

/-- No call of a holder waits. -/
def IsQuiet (m : LockManager) (h : Holder) : Prop := ∀ c ∈ m.waiting, c.holder ≠ h

/-- Requests, waiting calls and tickets agree with each other. -/
structure Coherent (m : LockManager) : Prop where
  single : m.requests.IsSingle
  registered : ∀ r ∈ m.requests, r.holder.number ≤ m.registered
  callers : (m.waiting.map Call.holder).Nodup
  tickets : (m.waiting.map Call.ticket).Nodup
  issued : ∀ c ∈ m.waiting, c.ticket < m.tickets
  entered : ∀ c ∈ m.waiting, c.entered = true ∧ ⟨c.holder, c.mode⟩ ∈ m.requests
  blocked : ∀ c ∈ m.waiting, m.lets c = false
  /-- A request is granted unless a call waits for it. -/
  granted : ∀ r ∈ m.requests, m.IsQuiet r.holder → m.requests.free r.holder r.mode = true
  gaveUp : ∀ t ∈ m.gaveUp, t < m.tickets ∧ ∀ c ∈ m.waiting, c.ticket ≠ t

/-- A holder between two calls. -/
structure Rests (m : LockManager) (h : Holder) : Prop where
  quiet : m.IsQuiet h
  noRead : ⟨h, .shared⟩ ∉ m.requests

/-- A holder that may do what a mode allows. -/
structure Holds (m : LockManager) (h : Holder) (mode : Mode) : Prop where
  quiet : m.IsQuiet h
  granted : m.requests.Grants h mode ∨ m.requests.Grants h .exclusive

/-- A holder whose call has returned: it was let through, or it gave up and left the queue. -/
structure Returned (m : LockManager) (h : Holder) (ticket : Nat) (mode : Mode) : Prop where
  quiet : m.IsQuiet h
  issued : ticket < m.tickets
  waitsNot : ∀ c ∈ m.waiting, c.ticket ≠ ticket
  result : ticket ∉ m.gaveUp ∧ m.requests.Grants h mode ∨
    ticket ∈ m.gaveUp ∧ m.requests.holds h = false

/-- A holder whose call waits or has returned. -/
def Awaits (m : LockManager) (h : Holder) (ticket : Nat) (mode : Mode) : Prop :=
  ⟨ticket, h, mode, true⟩ ∈ m.waiting ∨ m.Returned h ticket mode

/-- What an operation on behalf of `h` leaves to the other holders. -/
structure Spares (h : Holder) (m n : LockManager) : Prop where
  registered : m.registered ≤ n.registered
  timeout : n.timeout = m.timeout
  issued : m.tickets ≤ n.tickets
  waiting : ∀ c ∈ n.waiting, c ∈ m.waiting ∨ c.holder = h ∧ m.tickets ≤ c.ticket
  returned : ∀ c ∈ m.waiting, c.holder ≠ h → c ∈ n.waiting ∨ n.requests.Grants c.holder c.mode
  requests : ∀ r ∈ n.requests, r ∈ m.requests ∨ r.holder = h
  grants : ∀ k mode, k ≠ h → m.requests.Grants k mode → n.requests.Grants k mode
  gaveUp : ∀ t, (∀ c ∈ m.waiting, c.ticket = t → c.holder ≠ h) → (t ∈ n.gaveUp ↔ t ∈ m.gaveUp)

variable {m n : LockManager} {h k : Holder} {mode : Mode} {ticket : Nat}

/-! ## What a holder is spared -/

theorem Spares.refl (h : Holder) (m : LockManager) : Spares h m m where
  registered := Nat.le_refl _
  timeout := rfl
  issued := Nat.le_refl _
  waiting := fun _ hc => Or.inl hc
  returned := fun _ hc _ => Or.inl hc
  requests := fun _ hr => Or.inl hr
  grants := fun _ _ _ hg => hg
  gaveUp := fun _ _ => Iff.rfl

theorem Spares.quiet (hs : Spares h m n) (hk : k ≠ h) (hquiet : m.IsQuiet k) : n.IsQuiet k := by
  intro c hc heq
  rcases hs.waiting c hc with hold | ⟨hown, -⟩
  · exact hquiet c hold heq
  · exact hk (heq.symm.trans hown)

theorem Spares.rests (hs : Spares h m n) (hk : k ≠ h) (hm : m.Rests k) : n.Rests k where
  quiet := hs.quiet hk hm.quiet
  noRead := by
    intro hmem
    rcases hs.requests _ hmem with hold | hown
    · exact hm.noRead hold
    · exact hk hown

theorem Spares.holds (hs : Spares h m n) (hk : k ≠ h) (hm : m.Holds k mode) :
    n.Holds k mode where
  quiet := hs.quiet hk hm.quiet
  granted := hm.granted.imp (hs.grants k _ hk) (hs.grants k _ hk)

theorem Spares.ticket_ne (hs : Spares h m n) (hissued : ticket < m.tickets)
    (hm : ∀ c ∈ m.waiting, c.ticket ≠ ticket) : ∀ c ∈ n.waiting, c.ticket ≠ ticket := by
  intro c hc
  rcases hs.waiting c hc with hold | ⟨-, hnew⟩
  · exact hm c hold
  · omega

theorem Spares.returned_of_returned (hs : Spares h m n) (hk : k ≠ h)
    (hm : m.Returned k ticket mode) : n.Returned k ticket mode := by
  have hsame : ticket ∈ n.gaveUp ↔ ticket ∈ m.gaveUp :=
    hs.gaveUp ticket fun c hc heq => absurd heq (hm.waitsNot c hc)
  refine ⟨hs.quiet hk hm.quiet, Nat.lt_of_lt_of_le hm.issued hs.issued,
    hs.ticket_ne hm.issued hm.waitsNot, ?_⟩
  rcases hm.result with ⟨hstays, hgrants⟩ | ⟨hgave, hleft⟩
  · exact Or.inl ⟨fun hgave => hstays (hsame.mp hgave), hs.grants k _ hk hgrants⟩
  · refine Or.inr ⟨hsame.mpr hgave, ?_⟩
    by_contra hstands
    obtain ⟨r, hr, hholder⟩ := (Queue.holds_iff _ _).mp (by simpa using hstands)
    rcases hs.requests r hr with hold | hown
    · exact Queue.not_holds hleft hold hholder
    · exact hk (hholder.symm.trans hown)

/-- A call of another holder goes on waiting unless the queue lets it through. -/
theorem Spares.awaits (hm : m.Coherent) (hs : Spares h m n) (hk : k ≠ h)
    (hawaits : m.Awaits k ticket mode) : n.Awaits k ticket mode := by
  rcases hawaits with hcall | hreturned
  · rcases hs.returned _ hcall hk with hstill | hgrants
    · exact Or.inl hstill
    -- the call may wait although its request is granted by now; else it has returned
    · by_cases hstill : ⟨ticket, k, mode, true⟩ ∈ n.waiting
      · exact Or.inl hstill
      have hgone : ∀ c ∈ n.waiting, c.holder ≠ k ∧ c.ticket ≠ ticket := by
        intro c hc
        rcases hs.waiting c hc with hold | ⟨hown, hnew⟩
        · constructor
          · intro heq
            exact hstill (List.inj_on_of_nodup_map hm.callers hold hcall heq ▸ hc)
          · intro heq
            exact hstill (List.inj_on_of_nodup_map hm.tickets hold hcall heq ▸ hc)
        · have hissued : ticket < m.tickets := hm.issued _ hcall
          exact ⟨fun heq => hk (heq.symm.trans hown), by omega⟩
      have hsame : ticket ∈ n.gaveUp ↔ ticket ∈ m.gaveUp := by
        refine hs.gaveUp ticket fun c hc heq => ?_
        rw [List.inj_on_of_nodup_map hm.tickets hc hcall heq]
        exact hk
      refine Or.inr ⟨fun c hc => (hgone c hc).1,
        Nat.lt_of_lt_of_le (hm.issued _ hcall) hs.issued, fun c hc => (hgone c hc).2,
        Or.inl ⟨fun hgave => ?_, hgrants⟩⟩
      exact (hm.gaveUp ticket (hsame.mp hgave)).2 _ hcall rfl
  · exact Or.inr (hs.returned_of_returned hk hreturned)

/-! ## New holders -/

theorem register_coherent (hm : m.Coherent) : m.register.2.Coherent where
  single := hm.single
  registered := fun r hr => Nat.le_succ_of_le (hm.registered r hr)
  callers := hm.callers
  tickets := hm.tickets
  issued := hm.issued
  entered := hm.entered
  blocked := hm.blocked
  granted := hm.granted
  gaveUp := hm.gaveUp

theorem register_spares (h : Holder) (m : LockManager) : Spares h m m.register.2 where
  registered := Nat.le_succ _
  timeout := rfl
  issued := Nat.le_refl _
  waiting := fun _ hc => Or.inl hc
  returned := fun _ hc _ => Or.inl hc
  requests := fun _ hr => Or.inl hr
  grants := fun _ _ _ hg => hg
  gaveUp := fun _ _ => Iff.rfl

/-- Nobody knows a new holder. -/
theorem register_rests (hm : m.Coherent) : m.register.2.Rests m.register.1 := by
  have hnew : ∀ r ∈ m.requests, r.holder ≠ m.register.1 := by
    rintro r hr heq
    have hold : r.holder.number ≤ m.registered := hm.registered r hr
    rw [heq] at hold
    exact Nat.not_succ_le_self _ hold
  exact ⟨fun c hc heq => hnew _ (hm.entered c hc).2 heq, fun hr => hnew _ hr rfl⟩

/-! ## Asking for a lock -/

/-- A holder whose request is granted is answered at once, and nothing changes: it may do what its
lock allows, and asking for more is refused. -/
theorem lock_of_grants {own : Mode} (hm : m.requests.IsSingle)
    (hgrants : m.requests.Grants h own) (mode : Mode) :
    m.lock h mode = (if own = .shared ∧ mode = .exclusive then .refused else .granted, m) := by
  have hholds : m.requests.holds h = true := (Queue.holds_iff _ _).mpr ⟨_, hgrants.1, rfl⟩
  have hmode : m.requests.modeOf? h = some own := by
    cases hmode : m.requests.modeOf? h with
    | none => exact (Queue.modeOf?_eq_none hmode hgrants.1).elim
    | some first => rw [hm.mode_unique (Queue.mem_of_modeOf?_eq_some hmode) hgrants.1]
  cases own with
  | exclusive =>
    cases mode with
    | shared => simp [lock, lockToRead, hholds, proceed, hgrants.free_of_exclusive]
    | exclusive => simp [lock, lockToWrite, hmode, proceed, hgrants.free_of_exclusive]
  | shared =>
    cases mode with
    | shared => simp [lock, lockToRead, hholds, proceed, hgrants.2]
    | exclusive => simp [lock, lockToWrite, hmode]

/-- A holder that does not stand in the queue enters it, in the same way for both modes. -/
theorem lock_of_absent (hholds : m.requests.holds h = false) (mode : Mode) :
    m.lock h mode = proceed { m with requests := m.requests.enter h mode } h mode true := by
  cases mode with
  | shared => simp [lock, lockToRead, hholds]
  | exclusive =>
    have hmode : m.requests.modeOf? h = none := by
      cases hmode : m.requests.modeOf? h with
      | none => rfl
      | some own => exact absurd rfl (Queue.not_holds hholds (Queue.mem_of_modeOf?_eq_some hmode))
    simp [lock, lockToWrite, hmode]

/-- What a call comes to of whose holder no other call waits: a lock is granted to it already, or it
enters the queue and is let through or not. -/
theorem lock_cases (hm : m.Coherent) (hh : m.IsQuiet h) (mode : Mode) :
    (∃ own, m.requests.Grants h own ∧
      m.lock h mode = (if own = .shared ∧ mode = .exclusive then .refused else .granted, m)) ∨
    (m.requests.holds h = false ∧ (m.requests.enter h mode).free h mode = true ∧
      m.lock h mode = (.granted, { m with requests := m.requests.enter h mode })) ∨
    (m.requests.holds h = false ∧ (m.requests.enter h mode).free h mode = false ∧
      m.lock h mode = (.waiting m.tickets,
        { m with
          requests := m.requests.enter h mode
          waiting := m.waiting ++ [⟨m.tickets, h, mode, true⟩]
          tickets := m.tickets + 1 })) := by
  cases hholds : m.requests.holds h with
  | true =>
    obtain ⟨⟨holder, own⟩, hr, rfl⟩ := (Queue.holds_iff _ _).mp hholds
    -- nobody waits for the request, so it is granted
    have hgrants : m.requests.Grants holder own := ⟨hr, hm.granted _ hr hh⟩
    exact Or.inl ⟨own, hgrants, lock_of_grants hm.single hgrants mode⟩
  | false =>
    right
    have hentered := lock_of_absent hholds mode
    cases hfree : (m.requests.enter h mode).free h mode with
    | true => exact Or.inl ⟨rfl, rfl, by simp [hentered, proceed, hfree]⟩
    | false => exact Or.inr ⟨rfl, rfl, by simp [hentered, proceed, hfree]⟩

/-- Between two calls a holder keeps no read lock, so a lock that it has is the write lock, and it
is never refused. -/
theorem Rests.lock_cases (hm : m.Coherent) (hh : m.Rests h) (mode : Mode) :
    (m.requests.Grants h .exclusive ∧ m.lock h mode = (.granted, m)) ∨
    (m.requests.holds h = false ∧ (m.requests.enter h mode).free h mode = true ∧
      m.lock h mode = (.granted, { m with requests := m.requests.enter h mode })) ∨
    (m.requests.holds h = false ∧ (m.requests.enter h mode).free h mode = false ∧
      m.lock h mode = (.waiting m.tickets,
        { m with
          requests := m.requests.enter h mode
          waiting := m.waiting ++ [⟨m.tickets, h, mode, true⟩]
          tickets := m.tickets + 1 })) := by
  rcases LockManager.lock_cases hm hh.quiet mode with ⟨own, hgrants, hlock⟩ | hentered
  · left
    obtain rfl : own = .exclusive := by
      cases own with
      | shared => exact absurd hgrants.1 hh.noRead
      | exclusive => rfl
    exact ⟨hgrants, by simpa using hlock⟩
  · exact Or.inr hentered

theorem Coherent.registered_enter (hm : m.Coherent) (hreg : h.number ≤ m.registered)
    (mode : Mode) : ∀ r ∈ m.requests.enter h mode, r.holder.number ≤ m.registered := by
  intro r hr
  rcases List.mem_append.mp hr with hold | hnew
  · exact hm.registered r hold
  · rw [List.mem_singleton.mp hnew]
    exact hreg

/-- A request behind the others lets nobody through who has to wait. -/
theorem Coherent.blocked_enter (hm : m.Coherent) (h : Holder) (mode : Mode) :
    ∀ c ∈ m.waiting, (m.requests.enter h mode).free c.holder c.mode = false :=
  fun c hc => (Queue.free_enter (hm.entered c hc).2).trans (hm.blocked c hc)

theorem Coherent.entered_enter (hm : m.Coherent) (h : Holder) (mode : Mode) :
    ∀ c ∈ m.waiting, c.entered = true ∧ ⟨c.holder, c.mode⟩ ∈ m.requests.enter h mode :=
  fun c hc => ⟨(hm.entered c hc).1, List.mem_append_left _ (hm.entered c hc).2⟩

/-- A request enters the queue and is granted at once. -/
theorem Coherent.enter (hm : m.Coherent) (hreg : h.number ≤ m.registered)
    (hholds : m.requests.holds h = false) (hfree : (m.requests.enter h mode).free h mode = true) :
    Coherent { m with requests := m.requests.enter h mode } where
  single := hm.single.enter hholds mode
  registered := hm.registered_enter hreg mode
  callers := hm.callers
  tickets := hm.tickets
  issued := hm.issued
  entered := hm.entered_enter h mode
  blocked := hm.blocked_enter h mode
  granted := by
    intro r hr hquiet
    rcases List.mem_append.mp hr with hold | hnew
    · exact (Queue.free_enter hold).trans (hm.granted r hold hquiet)
    · rw [List.mem_singleton.mp hnew]
      exact hfree
  gaveUp := hm.gaveUp

/-- A request enters the queue and its call has to wait. -/
theorem Coherent.enter_waiting (hm : m.Coherent) (hquiet : m.IsQuiet h)
    (hreg : h.number ≤ m.registered) (hholds : m.requests.holds h = false)
    (hfree : (m.requests.enter h mode).free h mode = false) :
    Coherent
      { m with
        requests := m.requests.enter h mode
        waiting := m.waiting ++ [⟨m.tickets, h, mode, true⟩]
        tickets := m.tickets + 1 } where
  single := hm.single.enter hholds mode
  registered := hm.registered_enter hreg mode
  callers := by
    have hcaller : h ∉ m.waiting.map Call.holder := by
      intro hmem
      obtain ⟨c, hc, heq⟩ := List.mem_map.mp hmem
      exact hquiet c hc heq
    rw [List.map_append]
    exact List.Nodup.append hm.callers (by simp) (by simpa using hcaller)
  tickets := by
    -- tickets only go up, so that of the new call is not in use
    have hticket : m.tickets ∉ m.waiting.map Call.ticket := by
      intro hmem
      obtain ⟨c, hc, heq⟩ := List.mem_map.mp hmem
      have hissued := hm.issued c hc
      omega
    rw [List.map_append]
    exact List.Nodup.append hm.tickets (by simp) (by simpa using hticket)
  issued := by
    intro c hc
    rcases List.mem_append.mp hc with hold | hnew
    · exact Nat.lt_succ_of_lt (hm.issued c hold)
    · rw [List.mem_singleton.mp hnew]
      exact Nat.lt_succ_self _
  entered := by
    intro c hc
    rcases List.mem_append.mp hc with hold | hnew
    · exact hm.entered_enter h mode c hold
    · rw [List.mem_singleton.mp hnew]
      exact ⟨rfl, List.mem_append_right _ List.mem_cons_self⟩
  blocked := by
    intro c hc
    rcases List.mem_append.mp hc with hold | hnew
    · exact hm.blocked_enter h mode c hold
    · rw [List.mem_singleton.mp hnew]
      exact hfree
  granted := by
    intro r hr hnobody
    rcases List.mem_append.mp hr with hold | hnew
    · refine (Queue.free_enter hold).trans (hm.granted r hold fun c hc => ?_)
      exact hnobody c (List.mem_append_left _ hc)
    · -- the new request is waited for
      refine absurd ?_ (hnobody ⟨m.tickets, h, mode, true⟩
        (List.mem_append_right _ List.mem_cons_self))
      rw [List.mem_singleton.mp hnew]
  gaveUp := by
    intro t ht
    obtain ⟨hissued, hnot⟩ := hm.gaveUp t ht
    refine ⟨Nat.lt_succ_of_lt hissued, fun c hc => ?_⟩
    rcases List.mem_append.mp hc with hold | hnew
    · exact hnot c hold
    · rw [List.mem_singleton.mp hnew]
      exact Nat.ne_of_gt hissued

theorem lock_coherent (hm : m.Coherent) (hh : m.IsQuiet h) (hreg : h.number ≤ m.registered)
    (mode : Mode) : (m.lock h mode).2.Coherent := by
  rcases lock_cases hm hh mode with
    ⟨own, -, hlock⟩ | ⟨hholds, hfree, hlock⟩ | ⟨hholds, hfree, hlock⟩
  · rw [hlock]
    exact hm
  · rw [hlock]
    exact hm.enter hreg hholds hfree
  · rw [hlock]
    exact hm.enter_waiting hh hreg hholds hfree

theorem lock_spares (hm : m.Coherent) (hh : m.IsQuiet h) (mode : Mode) :
    Spares h m (m.lock h mode).2 := by
  have hrequests : ∀ r ∈ m.requests.enter h mode, r ∈ m.requests ∨ r.holder = h := by
    intro r hr
    rcases List.mem_append.mp hr with hold | hnew
    · exact Or.inl hold
    · exact Or.inr (by rw [List.mem_singleton.mp hnew])
  rcases lock_cases hm hh mode with ⟨own, -, hlock⟩ | ⟨-, -, hlock⟩ | ⟨-, -, hlock⟩
  · rw [hlock]
    exact Spares.refl h m
  · rw [hlock]
    exact ⟨Nat.le_refl _, rfl, Nat.le_refl _, fun _ hc => Or.inl hc, fun _ hc _ => Or.inl hc,
      hrequests, fun _ _ _ hg => hg.enter, fun _ _ => Iff.rfl⟩
  · rw [hlock]
    refine ⟨Nat.le_refl _, rfl, Nat.le_succ _, ?_, fun _ hc _ => Or.inl (List.mem_append_left _ hc),
      hrequests, fun _ _ _ hg => hg.enter, fun _ _ => Iff.rfl⟩
    intro c hc
    rcases List.mem_append.mp hc with hold | hnew
    · exact Or.inl hold
    · rw [List.mem_singleton.mp hnew]
      exact Or.inr ⟨rfl, Nat.le_refl _⟩

/-- A holder that is granted its lock at once holds it. -/
theorem lock_granted (hm : m.Coherent) (hh : m.Rests h)
    (hgranted : (m.lock h mode).1 = .granted) : (m.lock h mode).2.Holds h mode := by
  rcases hh.lock_cases hm mode with
    ⟨hwrites, hlock⟩ | ⟨-, hfree, hlock⟩ | ⟨-, -, hlock⟩
  · rw [hlock]
    exact ⟨hh.quiet, Or.inr hwrites⟩
  · rw [hlock]
    exact ⟨hh.quiet, Or.inl ⟨List.mem_append_right _ List.mem_cons_self, hfree⟩⟩
  · simp [hlock] at hgranted

theorem lock_waiting (hm : m.Coherent) (hh : m.Rests h)
    (hwaiting : (m.lock h mode).1 = .waiting ticket) :
    (m.lock h mode).2.Awaits h ticket mode := by
  rcases hh.lock_cases hm mode with ⟨-, hlock⟩ | ⟨-, -, hlock⟩ | ⟨-, -, hlock⟩
  · simp [hlock] at hwaiting
  · simp [hlock] at hwaiting
  · obtain rfl : m.tickets = ticket := by simpa [hlock] using hwaiting
    rw [hlock]
    exact Or.inl (List.mem_append_right _ List.mem_cons_self)

theorem lock_ne_refused (hm : m.Coherent) (hh : m.Rests h) : (m.lock h mode).1 ≠ .refused := by
  rcases hh.lock_cases hm mode with ⟨-, hlock⟩ | ⟨-, -, hlock⟩ | ⟨-, -, hlock⟩ <;> simp [hlock]

theorem lock_keeps_exclusive (hm : m.Coherent) (hh : m.Rests h)
    (hwrites : m.requests.Grants h .exclusive) :
    (m.lock h mode).2.requests.Grants h .exclusive := by
  rcases hh.lock_cases hm mode with ⟨-, hlock⟩ | ⟨-, -, hlock⟩ | ⟨-, -, hlock⟩
  · rw [hlock]
    exact hwrites
  · rw [hlock]
    exact hwrites.enter
  · rw [hlock]
    exact hwrites.enter

/-! ## Leaving the queue -/

/-- A holder leaves the queue for good: its request and its call are gone. -/
def quit (m : LockManager) (h : Holder) (gaveUp : List Nat) : LockManager :=
  { m with
    requests := m.requests.releaseAll h
    waiting := m.waiting.filter (fun c => c.holder != h)
    gaveUp }.wake

theorem mem_waiting_quit {gaveUp : List Nat} {c : Call} :
    c ∈ (m.quit h gaveUp).waiting ↔ c ∈ m.waiting ∧ c.holder ≠ h ∧
      (m.requests.releaseAll h).free c.holder c.mode = false := by
  simp [quit, wake, lets, and_comm]

theorem quit_waiting_sublist (m : LockManager) (h : Holder) (gaveUp : List Nat) :
    List.Sublist (m.quit h gaveUp).waiting m.waiting :=
  List.filter_sublist.trans List.filter_sublist

theorem quit_grants {gaveUp : List Nat} (hm : m.Coherent) (hk : k ≠ h)
    (hmem : ⟨k, mode⟩ ∈ m.requests) (hfree : m.requests.free k mode = true) :
    (m.quit h gaveUp).requests.Grants k mode :=
  Queue.Grants.sublist hm.single (Queue.releaseAll_sublist _ h)
    ((Queue.mem_releaseAll _ _ _).mpr ⟨hmem, hk⟩) hfree

theorem quit_coherent {gaveUp : List Nat} (hm : m.Coherent)
    (hgave : ∀ t ∈ gaveUp, t < m.tickets ∧ ∀ c ∈ m.waiting, c.ticket = t → c.holder = h) :
    (m.quit h gaveUp).Coherent where
  single := hm.single.releaseAll h
  registered := fun r hr => hm.registered r ((Queue.mem_releaseAll _ _ _).mp hr).1
  callers := List.Nodup.sublist ((quit_waiting_sublist m h gaveUp).map _) hm.callers
  tickets := List.Nodup.sublist ((quit_waiting_sublist m h gaveUp).map _) hm.tickets
  issued := fun c hc => hm.issued c (mem_waiting_quit.mp hc).1
  entered := by
    intro c hc
    obtain ⟨hold, hne, -⟩ := mem_waiting_quit.mp hc
    obtain ⟨hentered, hrequest⟩ := hm.entered c hold
    exact ⟨hentered, (Queue.mem_releaseAll _ _ _).mpr ⟨hrequest, hne⟩⟩
  blocked := fun c hc => (mem_waiting_quit.mp hc).2.2
  granted := by
    intro r hr hquiet
    obtain ⟨hold, hne⟩ := (Queue.mem_releaseAll _ _ _).mp hr
    by_cases hbefore : m.IsQuiet r.holder
    · exact (quit_grants hm hne hold (hm.granted r hold hbefore)).2
    · -- the call that waited for this request was let through, or it would wait still
      obtain ⟨c, hc, heq⟩ : ∃ c ∈ m.waiting, c.holder = r.holder := by
        simpa [IsQuiet] using hbefore
      have hrequest := (hm.entered c hc).2
      rw [heq] at hrequest
      have hmode := hm.single.mode_unique hrequest hold
      by_contra hfree
      refine hquiet c (mem_waiting_quit.mpr ⟨hc, heq ▸ hne, ?_⟩) heq
      rw [heq, hmode]
      exact Bool.eq_false_iff.mpr hfree
  gaveUp := by
    intro t ht
    obtain ⟨hissued, hown⟩ := hgave t ht
    refine ⟨hissued, fun c hc heq => ?_⟩
    obtain ⟨hold, hne, -⟩ := mem_waiting_quit.mp hc
    exact hne (hown c hold heq)

theorem quit_spares {gaveUp : List Nat} (hm : m.Coherent)
    (hgave : ∀ t, (∀ c ∈ m.waiting, c.ticket = t → c.holder ≠ h) →
      (t ∈ gaveUp ↔ t ∈ m.gaveUp)) : Spares h m (m.quit h gaveUp) where
  registered := Nat.le_refl _
  timeout := rfl
  issued := Nat.le_refl _
  waiting := fun _ hc => Or.inl (mem_waiting_quit.mp hc).1
  returned := by
    intro c hc hne
    cases hfree : (m.requests.releaseAll h).free c.holder c.mode with
    | false => exact Or.inl (mem_waiting_quit.mpr ⟨hc, hne, hfree⟩)
    | true =>
      exact Or.inr ⟨(Queue.mem_releaseAll _ _ _).mpr ⟨(hm.entered c hc).2, hne⟩, hfree⟩
  requests := fun _ hr => Or.inl ((Queue.mem_releaseAll _ _ _).mp hr).1
  grants := fun _ _ hk hg => quit_grants hm hk hg.1 hg.2
  gaveUp := hgave

theorem quit_quiet (m : LockManager) (h : Holder) (gaveUp : List Nat) :
    (m.quit h gaveUp).IsQuiet h := fun _ hc => (mem_waiting_quit.mp hc).2.1

theorem quit_holds (m : LockManager) (h : Holder) (gaveUp : List Nat) :
    (m.quit h gaveUp).requests.holds h = false := by
  by_contra hstands
  obtain ⟨r, hr, heq⟩ := (Queue.holds_iff _ _).mp (by simpa using hstands)
  exact ((Queue.mem_releaseAll _ _ _).mp hr).2 heq

theorem quit_rests (m : LockManager) (h : Holder) (gaveUp : List Nat) :
    (m.quit h gaveUp).Rests h where
  quiet := quit_quiet m h gaveUp
  noRead := fun hr => Queue.not_holds (quit_holds m h gaveUp) hr rfl

/-! ## Releasing and giving up -/

theorem unlockAll_eq (hh : m.IsQuiet h) : m.unlockAll h = m.quit h m.gaveUp := by
  have hwaiting : m.waiting.filter (fun c => c.holder != h) = m.waiting :=
    List.filter_eq_self.mpr fun c hc => by simpa using hh c hc
  rw [quit, hwaiting]
  rfl

theorem unlockAll_coherent (hm : m.Coherent) (hh : m.IsQuiet h) : (m.unlockAll h).Coherent := by
  rw [unlockAll_eq hh]
  exact quit_coherent hm fun t ht =>
    ⟨(hm.gaveUp t ht).1, fun c hc heq => absurd heq ((hm.gaveUp t ht).2 c hc)⟩

theorem unlockAll_spares (hm : m.Coherent) (hh : m.IsQuiet h) : Spares h m (m.unlockAll h) := by
  rw [unlockAll_eq hh]
  exact quit_spares hm fun _ _ => Iff.rfl

theorem unlockAll_rests (hh : m.IsQuiet h) : (m.unlockAll h).Rests h := by
  rw [unlockAll_eq hh]
  exact quit_rests m h m.gaveUp

/-- A holder that has no read lock releases nothing; one that has it leaves the queue. -/
theorem unlockRead_cases (hm : m.requests.IsSingle) (h : Holder) :
    (⟨h, .shared⟩ ∉ m.requests ∧ m.unlockRead h = m) ∨
    (⟨h, .shared⟩ ∈ m.requests ∧ m.unlockRead h = m.unlockAll h) := by
  have hany : m.requests.any (fun r => r.holder == h && r.mode == .shared) = true ↔
      ⟨h, .shared⟩ ∈ m.requests := by
    rw [List.any_eq_true]
    constructor
    · rintro ⟨⟨_, _⟩, hr, heq⟩
      obtain ⟨rfl, rfl⟩ : _ = h ∧ _ = Mode.shared := by simpa using heq
      exact hr
    · intro hr
      exact ⟨_, hr, by simp⟩
  by_cases hmem : ⟨h, .shared⟩ ∈ m.requests
  · exact Or.inr ⟨hmem, by rw [unlockRead, if_pos (hany.mpr hmem), unlockAll,
      Queue.releaseRead_eq hm hmem]⟩
  · exact Or.inl ⟨hmem, by rw [unlockRead, if_neg fun h' => hmem (hany.mp h')]⟩

theorem unlockRead_coherent (hm : m.Coherent) (hh : m.IsQuiet h) :
    (m.unlockRead h).Coherent := by
  rcases unlockRead_cases hm.single h with ⟨-, heq⟩ | ⟨-, heq⟩
  · rw [heq]
    exact hm
  · rw [heq]
    exact unlockAll_coherent hm hh

theorem unlockRead_spares (hm : m.Coherent) (hh : m.IsQuiet h) :
    Spares h m (m.unlockRead h) := by
  rcases unlockRead_cases hm.single h with ⟨-, heq⟩ | ⟨-, heq⟩
  · rw [heq]
    exact Spares.refl h m
  · rw [heq]
    exact unlockAll_spares hm hh

theorem unlockRead_rests (hm : m.Coherent) (hh : m.IsQuiet h) : (m.unlockRead h).Rests h := by
  rcases unlockRead_cases hm.single h with ⟨hnone, heq⟩ | ⟨-, heq⟩
  · rw [heq]
    exact ⟨hh, hnone⟩
  · rw [heq]
    exact unlockAll_rests hh

/-- Releasing the read lock never releases the write lock. -/
theorem unlockRead_of_exclusive (hm : m.requests.IsSingle)
    (hwrites : ⟨h, .exclusive⟩ ∈ m.requests) : m.unlockRead h = m := by
  rcases unlockRead_cases hm h with ⟨-, heq⟩ | ⟨hreads, -⟩
  · exact heq
  · exact absurd (hm.mode_unique hreads hwrites) (by simp)

/-- A call whose time limit is over gives up, for the queue would have let it through before. -/
theorem expire_eq (hm : m.Coherent) {c : Call} (hc : c ∈ m.waiting) :
    m.expire c = m.quit c.holder (c.ticket :: m.gaveUp) := by
  have hrest : m.waiting.filter (fun d => d.ticket != c.ticket) =
      m.waiting.filter (fun d => d.holder != c.holder) := by
    refine List.filter_congr fun d hd => ?_
    by_cases hd' : d = c
    · simp [hd']
    · have hticket : d.ticket ≠ c.ticket :=
        fun heq => hd' (List.inj_on_of_nodup_map hm.tickets hd hc heq)
      have hholder : d.holder ≠ c.holder :=
        fun heq => hd' (List.inj_on_of_nodup_map hm.callers hd hc heq)
      rw [bne_iff_ne.mpr hticket, bne_iff_ne.mpr hholder]
  rw [expire, hm.blocked c hc, (hm.entered c hc).1, hrest]
  simp [quit, Queue.withdraw_eq hm.single]

theorem expire_coherent (hm : m.Coherent) {c : Call} (hc : c ∈ m.waiting) :
    (m.expire c).Coherent := by
  rw [expire_eq hm hc]
  refine quit_coherent hm fun t ht => ?_
  rcases List.mem_cons.mp ht with rfl | hold
  · exact ⟨hm.issued c hc,
      fun d hd heq => by rw [List.inj_on_of_nodup_map hm.tickets hd hc heq]⟩
  · exact ⟨(hm.gaveUp t hold).1, fun d hd heq => absurd heq ((hm.gaveUp t hold).2 d hd)⟩

theorem expire_spares (hm : m.Coherent) {c : Call} (hc : c ∈ m.waiting) :
    Spares c.holder m (m.expire c) := by
  rw [expire_eq hm hc]
  refine quit_spares hm fun t ht => ?_
  have hne : t ≠ c.ticket := fun heq => ht c hc heq.symm rfl
  simp [hne]

/-- The call that gives up has returned. -/
theorem expire_returned (hm : m.Coherent) {c : Call} (hc : c ∈ m.waiting) :
    (m.expire c).Returned c.holder c.ticket c.mode := by
  rw [expire_eq hm hc]
  refine ⟨quit_quiet _ _ _, hm.issued c hc, ?_, Or.inr ⟨List.mem_cons_self, quit_holds _ _ _⟩⟩
  intro d hd heq
  obtain ⟨hold, hne, -⟩ := mem_waiting_quit.mp hd
  exact hne (by rw [List.inj_on_of_nodup_map hm.tickets hold hc heq])

end LockManager

end GraphCommit
