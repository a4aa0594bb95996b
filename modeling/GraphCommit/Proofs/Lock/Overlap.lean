import GraphCommit.Proofs.Lock.Run

/-!
# Overlapping calls

A holder may be asked for by several threads, and then its calls overlap: one waits while another
one asks or releases.  Such a lock need not be coherent, but something is left (`Sound`): no holder
stands in the queue twice, and a request that is not granted has a call that waits for it.

What a read relies on is that the queue lets its holder read.  Once it does, it does so until one of
a few operations, all of them done for the holder itself, takes its request out of the queue
(`Releases`, `after_reads_iff`).
-/

namespace GraphCommit

namespace Lock.Queue

variable {q : Queue} {h k : Holder}

theorem holds_of_freeToRead (hreads : q.freeToRead h = true) : q.holds h = true := by
  induction q with
  | nil => simp [freeToRead] at hreads
  | cons r rest ih =>
    by_cases hr : r.holder = h
    · simp [holds, hr]
    · by_cases hm : r.mode = .exclusive
      · simp [freeToRead, hr, hm] at hreads
      · have hrest : holds rest h = true := ih (by simpa [freeToRead, hr, hm] using hreads)
        simpa [holds, hr] using hrest

/-- Who stands at the head while another holder may read stands there to read. -/
theorem mode_head_of_freeToRead (hreads : q.freeToRead h = true) (hk : k ≠ h)
    (hwrites : q.freeToWrite k = true) : ⟨k, .shared⟩ ∈ q := by
  cases q with
  | nil => simp [freeToRead] at hreads
  | cons r rest =>
    obtain ⟨holder, mode⟩ := r
    obtain rfl : holder = k := by simpa [freeToWrite] using hwrites
    cases mode with
    | shared => exact List.mem_cons_self
    | exclusive => simp [freeToRead, hk] at hreads

/-- A holder may still read when others leave the queue, and not when it leaves the queue itself. -/
theorem freeToRead_releaseAll (hq : q.IsSingle) (hreads : q.freeToRead h = true) :
    (q.releaseAll k).freeToRead h = true ↔ k ≠ h := by
  constructor
  · rintro hstill rfl
    obtain ⟨r, hr, heq⟩ := (holds_iff _ _).mp (holds_of_freeToRead hstill)
    exact ((mem_releaseAll _ _ _).mp hr).2 heq
  · intro hk
    obtain ⟨r, hr, heq⟩ := (holds_iff _ _).mp (holds_of_freeToRead hreads)
    have hmem : r ∈ q.releaseAll k := (mem_releaseAll _ _ _).mpr ⟨hr, heq ▸ Ne.symm hk⟩
    have hholds : (q.releaseAll k).holds h = true := (holds_iff _ _).mpr ⟨r, hmem, heq⟩
    exact freeToRead_sublist hq (releaseAll_sublist q k) hholds hreads

end Lock.Queue

namespace LockManager

open Lock

variable {m : LockManager} {h k : Holder} {mode : Mode} {op : Operation}

/-! ## What overlapping calls leave -/

/-- A call waits for a request. -/
def IsAttended (calls : List Call) (r : Request) : Prop :=
  ∃ c ∈ calls, c.holder = r.holder ∧ c.mode = r.mode ∧ c.entered = true

/-- Requests, calls and tickets agree, also when the calls of a holder overlap. -/
structure Sound (m : LockManager) : Prop where
  single : m.requests.IsSingle
  tickets : (m.waiting.map Call.ticket).Nodup
  issued : ∀ c ∈ m.waiting, c.ticket < m.tickets
  /-- A request is granted, or a call waits for it. -/
  attended : ∀ r ∈ m.requests,
    m.requests.free r.holder r.mode = true ∨ IsAttended m.waiting r

theorem IsNew.sound (hm : m.IsNew) : m.Sound := by
  rw [IsNew] at hm
  rw [hm]
  constructor <;> simp [Queue.IsSingle]

/-- What a call for the lock comes to, whoever else has called. -/
inductive Asked (m : LockManager) (h : Holder) (mode : Mode) : Answer → LockManager → Prop
  | refused : Asked m h mode .refused m
  | granted (hfree : m.requests.free h mode = true) : Asked m h mode .granted m
  | waits (hfree : m.requests.free h mode = false) :
      Asked m h mode (.waiting m.tickets)
        { m with
          waiting := m.waiting ++ [⟨m.tickets, h, mode, false⟩]
          tickets := m.tickets + 1 }
  | enters (hholds : m.requests.holds h = false)
      (hfree : (m.requests.enter h mode).free h mode = true) :
      Asked m h mode .granted { m with requests := m.requests.enter h mode }
  | entersWaiting (hholds : m.requests.holds h = false)
      (hfree : (m.requests.enter h mode).free h mode = false) :
      Asked m h mode (.waiting m.tickets)
        { m with
          requests := m.requests.enter h mode
          waiting := m.waiting ++ [⟨m.tickets, h, mode, true⟩]
          tickets := m.tickets + 1 }

theorem asked_proceed (m : LockManager) (h : Holder) (mode : Mode) :
    Asked m h mode (m.proceed h mode false).1 (m.proceed h mode false).2 := by
  unfold proceed
  cases hfree : m.requests.free h mode with
  | true => exact .granted hfree
  | false => exact .waits hfree

theorem asked_lock (m : LockManager) (h : Holder) (mode : Mode) :
    Asked m h mode (m.lock h mode).1 (m.lock h mode).2 := by
  cases hholds : m.requests.holds h with
  | false =>
    rw [lock_of_absent hholds mode, proceed]
    cases hfree : (m.requests.enter h mode).free h mode with
    | true => exact .enters hholds hfree
    | false => exact .entersWaiting hholds hfree
  | true =>
    cases mode with
    | shared =>
      have hlock : m.lock h .shared = m.proceed h .shared false := by
        simp [lock, lockToRead, hholds]
      rw [hlock]
      exact asked_proceed m h .shared
    | exclusive =>
      -- who reads does not become a writer
      cases hmode : m.requests.modeOf? h with
      | none =>
        obtain ⟨⟨holder, own⟩, hr, rfl⟩ := (Queue.holds_iff _ _).mp hholds
        exact (Queue.modeOf?_eq_none hmode hr).elim
      | some own =>
        cases own with
        | shared =>
          have hlock : m.lock h .exclusive = (.refused, m) := by simp [lock, lockToWrite, hmode]
          rw [hlock]
          exact .refused
        | exclusive =>
          have hlock : m.lock h .exclusive = m.proceed h .exclusive false := by
            simp [lock, lockToWrite, hmode]
          rw [hlock]
          exact asked_proceed m h .exclusive

section

variable {answer : Answer} {n : LockManager} {c : Call}

theorem Asked.keeps_waiting (hasked : Asked m h mode answer n) (hc : c ∈ m.waiting) :
    c ∈ n.waiting := by
  cases hasked with
  | waits hfree => exact List.mem_append_left _ hc
  | entersWaiting hholds hfree => exact List.mem_append_left _ hc
  | _ => exact hc

/-- A waiting call has waited before, or it is the one that has just asked. -/
theorem Asked.waiting_cases (hasked : Asked m h mode answer n) (hc : c ∈ n.waiting) :
    c ∈ m.waiting ∨ c.ticket = m.tickets := by
  cases hasked with
  | waits hfree =>
    exact (List.mem_append.mp hc).imp id fun hnew => by rw [List.mem_singleton.mp hnew]
  | entersWaiting hholds hfree =>
    exact (List.mem_append.mp hc).imp id fun hnew => by rw [List.mem_singleton.mp hnew]
  | _ => exact Or.inl hc

/-- A call that is told to wait waits under the ticket that it is told. -/
theorem Asked.call_of_waiting {ticket : Nat} (hasked : Asked m h mode (.waiting ticket) n) :
    ∃ entered, ⟨ticket, h, mode, entered⟩ ∈ n.waiting := by
  cases hasked with
  | waits hfree => exact ⟨false, List.mem_append_right _ List.mem_cons_self⟩
  | entersWaiting hholds hfree => exact ⟨true, List.mem_append_right _ List.mem_cons_self⟩

theorem Asked.free_of_granted (hasked : Asked m h mode .granted n) :
    n.requests.free h mode = true := by
  cases hasked with
  | granted hfree => exact hfree
  | enters hholds hfree => exact hfree

/-- Who may read may still do so when somebody has asked. -/
theorem Asked.reads (hasked : Asked m h mode answer n)
    (hreads : m.requests.freeToRead k = true) : n.requests.freeToRead k = true := by
  cases hasked with
  | enters hholds hfree => exact Queue.freeToRead_append _ _ _ hreads
  | entersWaiting hholds hfree => exact Queue.freeToRead_append _ _ _ hreads
  | _ => exact hreads

end

/-- A new call waits under a new ticket. -/
theorem Sound.wait (hm : m.Sound) {c : Call} (hc : c.ticket = m.tickets) :
    ((m.waiting ++ [c]).map Call.ticket).Nodup ∧
      ∀ d ∈ m.waiting ++ [c], d.ticket < m.tickets + 1 := by
  have hnew : m.tickets ∉ m.waiting.map Call.ticket := by
    intro hmem
    obtain ⟨d, hd, heq⟩ := List.mem_map.mp hmem
    have hissued := hm.issued d hd
    omega
  constructor
  · rw [List.map_append]
    exact List.Nodup.append hm.tickets (by simp) (by simpa [hc] using hnew)
  · intro d hd
    rcases List.mem_append.mp hd with hold | hlast
    · have hissued := hm.issued d hold
      omega
    · rw [List.mem_singleton.mp hlast]
      omega

theorem Asked.sound {answer : Answer} {n : LockManager} (hm : m.Sound)
    (hasked : Asked m h mode answer n) : n.Sound := by
  -- a request that stood in the queue is granted as before, or its call still waits
  have hold : ∀ r ∈ m.requests, ∀ later : List Call,
      (m.requests.enter h mode).free r.holder r.mode = true ∨
        IsAttended (m.waiting ++ later) r := by
    intro r hr later
    rcases hm.attended r hr with hfree | ⟨c, hc, hcall⟩
    · exact Or.inl ((Queue.free_enter hr).trans hfree)
    · exact Or.inr ⟨c, List.mem_append_left _ hc, hcall⟩
  cases hasked with
  | refused => exact hm
  | granted hfree => exact hm
  | waits hfree =>
    obtain ⟨htickets, hissued⟩ := hm.wait (c := ⟨m.tickets, h, mode, false⟩) rfl
    refine ⟨hm.single, htickets, hissued, fun r hr => ?_⟩
    rcases hm.attended r hr with hgranted | ⟨c, hc, hcall⟩
    · exact Or.inl hgranted
    · exact Or.inr ⟨c, List.mem_append_left _ hc, hcall⟩
  | enters hholds hfree =>
    refine ⟨hm.single.enter hholds mode, hm.tickets, hm.issued, fun r hr => ?_⟩
    rcases List.mem_append.mp hr with hbefore | hnew
    · simpa using hold r hbefore []
    · rw [List.mem_singleton.mp hnew]
      exact Or.inl hfree
  | entersWaiting hholds hfree =>
    obtain ⟨htickets, hissued⟩ := hm.wait (c := ⟨m.tickets, h, mode, true⟩) rfl
    refine ⟨hm.single.enter hholds mode, htickets, hissued, fun r hr => ?_⟩
    rcases List.mem_append.mp hr with hbefore | hnew
    · exact hold r hbefore _
    · rw [List.mem_singleton.mp hnew]
      exact Or.inr ⟨_, List.mem_append_right _ List.mem_cons_self, rfl, rfl, rfl⟩

/-- Requests and calls may be taken out as long as no request is left that nobody waits for. -/
theorem Sound.wake {p : Queue} {rest : List Call} {gaveUp : List Nat} (hm : m.Sound)
    (hp : List.Sublist p m.requests) (hrest : List.Sublist rest m.waiting)
    (hattended : ∀ r ∈ p, m.requests.free r.holder r.mode = true ∨ IsAttended rest r) :
    Sound { m with requests := p, waiting := rest, gaveUp }.wake where
  single := List.Nodup.sublist (hp.map _) hm.single
  tickets := List.Nodup.sublist ((List.filter_sublist.trans hrest).map _) hm.tickets
  issued := fun c hc => hm.issued c (hrest.subset (List.mem_of_mem_filter hc))
  attended := by
    intro r hr
    rcases hattended r hr with hfree | ⟨c, hc, hholder, hmode, hentered⟩
    · exact Or.inl (Queue.Grants.sublist hm.single hp hr hfree).2
    · -- the call goes on waiting unless the request is granted by now
      cases hfree : p.free r.holder r.mode with
      | true => exact Or.inl hfree
      | false =>
        refine Or.inr ⟨c, List.mem_filter.mpr ⟨hc, ?_⟩, hholder, hmode, hentered⟩
        simp [lets, hholder, hmode, hfree]

theorem Sound.unlockRead (hm : m.Sound) (h : Holder) : (m.unlockRead h).Sound := by
  unfold LockManager.unlockRead
  split
  · have hsub : List.Sublist (m.requests.releaseRead h) m.requests := List.eraseP_sublist
    exact hm.wake hsub (List.Sublist.refl _) fun r hr => hm.attended r (hsub.subset hr)
  · exact hm

theorem Sound.unlockAll (hm : m.Sound) (h : Holder) : (m.unlockAll h).Sound := by
  have hsub := Queue.releaseAll_sublist m.requests h
  exact hm.wake hsub (List.Sublist.refl _) fun r hr => hm.attended r (hsub.subset hr)

/-- The calls that are left when one call has gone. -/
theorem Sound.mem_rest (hm : m.Sound) {c d : Call} (hc : c ∈ m.waiting) (hd : d ∈ m.waiting) :
    d ∈ m.waiting.filter (fun e => e.ticket != c.ticket) ↔ d ≠ c := by
  rw [List.mem_filter, bne_iff_ne]
  constructor
  · rintro ⟨-, hticket⟩ rfl
    exact hticket rfl
  · exact fun hne => ⟨hd, fun heq => hne (List.inj_on_of_nodup_map hm.tickets hd hc heq)⟩

theorem Sound.expire (hm : m.Sound) {c : Call} (hc : c ∈ m.waiting) : (m.expire c).Sound := by
  have hrest : List.Sublist (m.waiting.filter (fun d => d.ticket != c.ticket)) m.waiting :=
    List.filter_sublist
  unfold LockManager.expire
  split
  · next hlets =>
    refine ⟨hm.single, List.Nodup.sublist (hrest.map _) hm.tickets,
      fun d hd => hm.issued d (hrest.subset hd), fun r hr => ?_⟩
    rcases hm.attended r hr with hfree | ⟨d, hd, hholder, hmode, hentered⟩
    · exact Or.inl hfree
    · by_cases hsame : d = c
      -- the call has returned because its request is granted
      · subst hsame
        exact Or.inl (hholder ▸ hmode ▸ hlets)
      · exact Or.inr ⟨d, (hm.mem_rest hc hd).mpr hsame, hholder, hmode, hentered⟩
  · next hlets =>
    dsimp only
    split
    · next hentered =>
      rw [Queue.withdraw_eq hm.single]
      refine hm.wake (Queue.releaseAll_sublist _ _) hrest fun r hr => ?_
      obtain ⟨hold, hne⟩ := (Queue.mem_releaseAll _ _ _).mp hr
      refine (hm.attended r hold).imp id fun ⟨d, hd, hholder, hcall⟩ => ?_
      have hother : d ≠ c := fun heq => hne (heq ▸ hholder.symm)
      exact ⟨d, (hm.mem_rest hc hd).mpr hother, hholder, hcall⟩
    · next hentered =>
      refine ⟨hm.single, List.Nodup.sublist (hrest.map _) hm.tickets,
        fun d hd => hm.issued d (hrest.subset hd), fun r hr => ?_⟩
      refine (hm.attended r hr).imp id fun ⟨d, hd, hholder, hmode, hown⟩ => ?_
      have hother : d ≠ c := fun heq => hentered (heq ▸ hown)
      exact ⟨d, (hm.mem_rest hc hd).mpr hother, hholder, hmode, hown⟩

theorem after_sound (hm : m.Sound) (hop : m.IsPossible op) : (m.after op).Sound := by
  cases op with
  | register => exact ⟨hm.single, hm.tickets, hm.issued, hm.attended⟩
  | ask h mode => exact (asked_lock m h mode).sound hm
  | unlockRead h => exact hm.unlockRead h
  | unlockAll h => exact hm.unlockAll h
  | expire c => exact hm.expire hop.2

/-! ## Calls that return -/

/-- A call that waited and waits no longer was let through, or it gave up. -/
theorem lets_of_returned (hm : m.Sound) (hop : m.IsPossible op) {c : Call} (hc : c ∈ m.waiting)
    (hreturned : c ∉ (m.after op).waiting) (hstays : c.ticket ∉ (m.after op).gaveUp) :
    (m.after op).lets c = true := by
  -- a call that is looked at and does not stay is let through
  have hwake : ∀ n : LockManager, c ∈ n.waiting → c ∉ n.wake.waiting → n.wake.lets c = true := by
    intro n hn hgone
    change n.lets c = true
    by_contra hblocked
    exact hgone (List.mem_filter.mpr ⟨hn, by simpa using hblocked⟩)
  cases op with
  | register => exact absurd hc hreturned
  | ask h mode => exact absurd ((asked_lock m h mode).keeps_waiting hc) hreturned
  | unlockRead h =>
    change c ∉ (m.unlockRead h).waiting at hreturned
    change (m.unlockRead h).lets c = true
    unfold LockManager.unlockRead at hreturned ⊢
    split at hreturned
    · next hreads =>
      rw [if_pos hreads]
      exact hwake _ hc hreturned
    · exact absurd hc hreturned
  | unlockAll h => exact hwake _ hc hreturned
  | expire d =>
    change c ∉ (m.expire d).waiting at hreturned
    change c.ticket ∉ (m.expire d).gaveUp at hstays
    change (m.expire d).lets c = true
    have hrest := hm.mem_rest hop.2 hc
    unfold LockManager.expire at hreturned hstays ⊢
    split at hreturned
    · next hlets =>
      rw [if_pos hlets]
      by_cases hsame : c = d
      · exact hsame ▸ hlets
      · exact absurd (hrest.mpr hsame) hreturned
    · next hlets =>
      rw [if_neg hlets] at hstays ⊢
      dsimp only at hreturned hstays ⊢
      have hother : c ≠ d := by
        rintro rfl
        split at hstays <;> exact hstays List.mem_cons_self
      split at hreturned
      · next hentered =>
        rw [if_pos hentered]
        exact hwake _ (hrest.mpr hother) hreturned
      · exact absurd (hrest.mpr hother) hreturned

/-- A waiting call has waited before, or it has just asked. -/
theorem waiting_after (op : Operation) {c : Call} (hc : c ∈ (m.after op).waiting) :
    c ∈ m.waiting ∨ c.ticket = m.tickets ∧ ∃ h mode, op = .ask h mode := by
  cases op with
  | register => exact Or.inl hc
  | ask h mode =>
    exact ((asked_lock m h mode).waiting_cases hc).imp id fun hnew => ⟨hnew, h, mode, rfl⟩
  | unlockRead h =>
    change c ∈ (m.unlockRead h).waiting at hc
    unfold LockManager.unlockRead at hc
    split at hc
    · exact Or.inl (List.mem_of_mem_filter hc)
    · exact Or.inl hc
  | unlockAll h => exact Or.inl (List.mem_of_mem_filter hc)
  | expire d =>
    change c ∈ (m.expire d).waiting at hc
    unfold LockManager.expire at hc
    split at hc
    · exact Or.inl (List.mem_of_mem_filter hc)
    · dsimp only at hc
      split at hc
      · exact Or.inl (List.mem_of_mem_filter (List.mem_of_mem_filter hc))
      · exact Or.inl (List.mem_of_mem_filter hc)

/-! ## Holders that may read -/

/-- The operations that take the request of a holder out of the queue: its read lock or all its
locks are released, or a call of it gives up that entered the request. -/
def Releases (m : LockManager) (h : Holder) : Operation → Prop
  | .unlockRead k => k = h ∧ ⟨h, .shared⟩ ∈ m.requests
  | .unlockAll k => k = h
  | .expire c => c.holder = h ∧ c.entered = true ∧ m.lets c = false
  | _ => False

instance : (m : LockManager) → (h : Holder) → (op : Operation) → Decidable (m.Releases h op)
  | m, h, .unlockRead k => inferInstanceAs (Decidable (k = h ∧ ⟨h, .shared⟩ ∈ m.requests))
  | _, h, .unlockAll k => inferInstanceAs (Decidable (k = h))
  | m, h, .expire c =>
    inferInstanceAs (Decidable (c.holder = h ∧ c.entered = true ∧ m.lets c = false))
  | _, _, .register => .isFalse id
  | _, _, .ask .. => .isFalse id

/-- A holder that may read does so until its request is taken out, and no longer. -/
theorem after_reads_iff (hm : m.Sound) (hreads : m.requests.freeToRead h = true)
    (op : Operation) : (m.after op).requests.freeToRead h = true ↔ ¬ m.Releases h op := by
  have hsame : m.requests.freeToRead h = true ↔ ¬ False := by simp [hreads]
  -- a reader only loses its turn when its own requests are taken out
  have hout : ∀ k, (m.requests.releaseAll k).freeToRead h = true ↔ ¬ k = h :=
    fun k => Queue.freeToRead_releaseAll hm.single hreads
  cases op with
  | register => exact hsame
  | ask k mode => exact ⟨fun _ => id, fun _ => (asked_lock m k mode).reads hreads⟩
  | unlockRead k =>
    change (m.unlockRead k).requests.freeToRead h = true ↔ ¬ (k = h ∧ _)
    rcases unlockRead_cases hm.single k with ⟨hnone, heq⟩ | ⟨hmem, heq⟩
    · rw [heq]
      refine ⟨?_, fun _ => hreads⟩
      rintro - ⟨rfl, hmem⟩
      exact hnone hmem
    · rw [heq]
      refine (hout k).trans (not_congr ⟨?_, And.left⟩)
      rintro rfl
      exact ⟨rfl, hmem⟩
  | unlockAll k => exact hout k
  | expire c =>
    change (m.expire c).requests.freeToRead h = true ↔ ¬ (c.holder = h ∧ _ ∧ _)
    unfold LockManager.expire
    cases hlets : m.lets c with
    | true => simp [hreads]
    | false =>
      cases hentered : c.entered with
      | false => simp [hreads]
      | true =>
        have hwithdraw := hout c.holder
        rw [← Queue.withdraw_eq hm.single] at hwithdraw
        simpa [wake] using hwithdraw

end LockManager

end GraphCommit
