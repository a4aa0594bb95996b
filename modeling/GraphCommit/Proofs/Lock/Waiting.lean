import Mathlib.Data.List.TakeWhile
import GraphCommit.Proofs.Lock.Overlap

/-!
# What waiting calls wait for

A call waits for requests of other holders that stand before the request of its own holder and are
in its way (`Bars`).  It should return as soon as they are gone, and it does so as long as its
holder has a request in the queue.

But a request belongs to a holder and not to a call.  When the calls of a holder overlap, one of
them can take the request out of the queue while another one waits with it: by releasing the locks
of the holder, or by giving up.  Such an operation `Abandons` the other call, which from then on
waits for nothing that another holder could do (`waiting_abandoned`).  Without it every waiting call
waits in line (`waits_in_line`).
-/

namespace GraphCommit

namespace Lock

/-- Whether a request of another holder before the own one keeps a call for a mode waiting. -/
def Bars (r : Request) (mode : Mode) : Prop := mode = .exclusive ∨ r.mode = .exclusive

namespace Queue

variable {q : Queue} {h k : Holder} {mode : Mode}

/-- The requests of others that stand before the first one of a holder. -/
def ahead (q : Queue) (h : Holder) : List Request := q.takeWhile fun r => r.holder != h

theorem holder_ne_of_mem_ahead {r : Request} (hr : r ∈ q.ahead h) : r.holder ≠ h := by
  have hother := List.mem_takeWhile_imp hr
  simpa using hother

/-- A call may go on if its holder stands in the queue and nothing before it is in its way. -/
theorem free_iff : q.free h mode = true ↔ q.holds h = true ∧ ∀ r ∈ q.ahead h, ¬ Bars r mode := by
  induction q with
  | nil => cases mode <;> simp [free, freeToRead, freeToWrite, holds]
  | cons r rest ih =>
    by_cases hr : r.holder = h
    · cases mode <;> simp [free, freeToRead, freeToWrite, holds, ahead, hr]
    -- the first request is of another holder: a writer stops at it, a reader may pass by readers
    · have hahead : ahead (r :: rest) h = r :: ahead rest h := by simp [ahead, hr]
      rw [hahead]
      cases mode with
      | exclusive =>
        constructor
        · intro hfree
          simp [free, freeToWrite, hr] at hfree
        · rintro ⟨-, hnone⟩
          exact absurd (Or.inl rfl) (hnone r List.mem_cons_self)
      | shared =>
        by_cases hm : r.mode = .exclusive
        · simp [free, freeToRead, Bars, hr, hm]
        · simp only [free, holds, Bars] at ih
          simpa [free, freeToRead, holds, Bars, hr, hm] using ih

/-- A request at the end stands before nobody who is in the queue. -/
theorem ahead_enter (hholds : q.holds h = true) : (q.enter k mode).ahead h = q.ahead h := by
  induction q with
  | nil => simp [holds] at hholds
  | cons r rest ih =>
    by_cases hr : r.holder = h
    · simp [ahead, enter, hr]
    · have hrest : ahead (enter rest k mode) h = ahead rest h :=
        ih (by simpa [holds, hr] using hholds)
      simpa [ahead, enter, hr] using hrest

theorem holds_enter : (q.enter k mode).holds h = true ↔ q.holds h = true ∨ k = h := by
  simp [holds, enter]

/-- Taking the requests of a holder out takes those of nobody else out. -/
theorem holds_releaseAll : (q.releaseAll k).holds h = true ↔ q.holds h = true ∧ k ≠ h := by
  rw [holds_iff, holds_iff]
  constructor
  · rintro ⟨r, hr, rfl⟩
    obtain ⟨hmem, hne⟩ := (mem_releaseAll _ _ _).mp hr
    exact ⟨⟨r, hmem, rfl⟩, Ne.symm hne⟩
  · rintro ⟨⟨r, hr, rfl⟩, hne⟩
    exact ⟨r, (mem_releaseAll _ _ _).mpr ⟨hr, Ne.symm hne⟩, rfl⟩

end Queue

end Lock

namespace LockManager

open Lock

variable {m n : LockManager} {h k : Holder} {mode : Mode} {op : Operation} {c : Call}

/-- What a new lock comes to, whatever calls overlap. -/
def IsReached (m : LockManager) : Prop := ∃ m₀ : LockManager, m₀.IsNew ∧ Runs after IsPossible m₀ m

/-- A call that waits while its holder has no request. -/
def IsOrphan (m : LockManager) (c : Call) : Prop :=
  c ∈ m.waiting ∧ m.requests.holds c.holder = false

/-- An operation takes out the request with which some other call waits. -/
def Abandons (m : LockManager) (op : Operation) : Prop :=
  ∃ c ∈ m.waiting, m.Releases c.holder op ∧ op ≠ .expire c

instance (m : LockManager) (op : Operation) : Decidable (m.Abandons op) :=
  inferInstanceAs (Decidable (∃ c ∈ m.waiting, m.Releases c.holder op ∧ op ≠ .expire c))

theorem lets_iff : m.lets c = true ↔
    m.requests.holds c.holder = true ∧ ∀ r ∈ m.requests.ahead c.holder, ¬ Bars r c.mode :=
  Queue.free_iff

/-! ## One operation -/

theorem Releases.holder (hreleases : m.Releases h op) : op.holder? = some h := by
  cases op with
  | register => exact hreleases.elim
  | ask k mode => exact hreleases.elim
  | unlockRead k => exact congrArg some hreleases.1
  | unlockAll k => exact congrArg some hreleases
  | expire d => exact congrArg some hreleases.1

/-- Asking takes nothing out of the queue and may enter a request. -/
theorem requests_lock (m : LockManager) (h : Holder) (mode : Mode) :
    (m.lock h mode).2.requests = m.requests ∨
      (m.lock h mode).2.requests = m.requests.enter h mode := by
  have hasked := asked_lock m h mode
  generalize m.lock h mode = outcome at hasked ⊢
  obtain ⟨answer, n⟩ := outcome
  cases hasked with
  | enters hholds hfree => exact Or.inr rfl
  | entersWaiting hholds hfree => exact Or.inr rfl
  | _ => exact Or.inl rfl

/-- A call that has just begun to wait is not let through. -/
theorem lets_of_new (hc : c ∈ (m.lock h mode).2.waiting) (hnew : c ∉ m.waiting) :
    c.holder = h ∧ (m.lock h mode).2.lets c = false := by
  have hasked := asked_lock m h mode
  generalize m.lock h mode = outcome at hasked hc ⊢
  obtain ⟨answer, n⟩ := outcome
  cases hasked with
  | waits hfree =>
    obtain rfl := List.mem_singleton.mp ((List.mem_append.mp hc).resolve_left hnew)
    exact ⟨rfl, hfree⟩
  | entersWaiting hholds hfree =>
    obtain rfl := List.mem_singleton.mp ((List.mem_append.mp hc).resolve_left hnew)
    exact ⟨rfl, hfree⟩
  | _ => exact absurd hc hnew

/-- After a call its holder stands in the queue. -/
theorem holds_lock (m : LockManager) (h : Holder) (mode : Mode) :
    (m.lock h mode).2.requests.holds h = true := by
  cases hholds : m.requests.holds h with
  | false =>
    have henter : (m.lock h mode).2.requests = m.requests.enter h mode := by
      rw [lock_of_absent hholds mode, proceed]
      split <;> rfl
    rw [henter, Queue.holds_enter]
    exact Or.inr rfl
  | true =>
    rcases requests_lock m h mode with hsame | henter
    · rw [hsame, hholds]
    · rw [henter, Queue.holds_enter]
      exact Or.inl hholds

/-- What an operation does to a waiting call that it does not end.  Either it takes the requests of
a holder out, and then the call looks at the queue, or it takes nothing out, and then the call goes
on waiting. -/
theorem after_cases (hm : m.Sound) (hop : m.IsPossible op) (hc : c ∈ m.waiting)
    (hne : op ≠ .expire c) :
    (∃ k, m.Releases k op ∧ (m.after op).requests = m.requests.releaseAll k ∧
      (c ∈ (m.after op).waiting ↔ (m.after op).lets c = false)) ∨
    ((∀ k, ¬ m.Releases k op) ∧ c ∈ (m.after op).waiting ∧
      ((m.after op).requests = m.requests ∨
        ∃ k mode, op = .ask k mode ∧ (m.after op).requests = m.requests.enter k mode)) := by
  -- where requests were taken out every waiting call looks again, and goes on if it is let through
  have hlooks : ∀ n : LockManager,
      c ∈ n.waiting → (c ∈ n.wake.waiting ↔ n.wake.lets c = false) := by
    intro n hn
    simp [wake, lets, hn]
  cases op with
  | register => exact Or.inr ⟨fun _ => id, hc, Or.inl rfl⟩
  | ask k mode =>
    refine Or.inr ⟨fun _ => id, (asked_lock m k mode).keeps_waiting hc, ?_⟩
    exact (requests_lock m k mode).imp id fun henter => ⟨k, mode, rfl, henter⟩
  | unlockRead k =>
    rcases unlockRead_cases hm.single k with ⟨hnone, heq⟩ | ⟨hmem, heq⟩
    · have hsame : m.after (.unlockRead k) = m := heq
      rw [hsame]
      refine Or.inr ⟨?_, hc, Or.inl rfl⟩
      rintro h ⟨rfl, hmem⟩
      exact hnone hmem
    · have hall : m.after (.unlockRead k) = m.unlockAll k := heq
      rw [hall]
      exact Or.inl ⟨k, ⟨rfl, hmem⟩, rfl, hlooks _ hc⟩
  | unlockAll k => exact Or.inl ⟨k, rfl, rfl, hlooks _ hc⟩
  | expire d =>
    have hother : c ≠ d := fun heq => hne (heq ▸ rfl)
    have hrest := (hm.mem_rest hop.2 hc).mpr hother
    rw [show m.after (.expire d) = m.expire d from rfl]
    unfold LockManager.expire
    split
    · next hlets =>
      refine Or.inr ⟨?_, hrest, Or.inl rfl⟩
      rintro h ⟨-, -, hblocked⟩
      rw [hlets] at hblocked
      contradiction
    · next hlets =>
      dsimp only
      split
      · next hentered =>
        -- a call that gives up takes its request with it if it has made one
        refine Or.inl ⟨d.holder, ⟨rfl, hentered, by simpa using hlets⟩, ?_, hlooks _ hrest⟩
        exact Queue.withdraw_eq hm.single
      · next hentered =>
        refine Or.inr ⟨?_, hrest, Or.inl rfl⟩
        rintro h ⟨-, htrue, -⟩
        exact hentered htrue

/-- A call that gives up waits no longer. -/
theorem not_waiting_expire (m : LockManager) (c : Call) : c ∉ (m.after (.expire c)).waiting := by
  intro hstill
  change c ∈ (m.expire c).waiting at hstill
  have hrest : c ∈ m.waiting.filter fun d => d.ticket != c.ticket := by
    unfold LockManager.expire at hstill
    split at hstill
    · exact hstill
    · dsimp only at hstill
      split at hstill
      · exact List.mem_of_mem_filter hstill
      · exact hstill
  simp at hrest

/-- A waiting call loses the request of its holder when this one is released or withdrawn. -/
theorem isOrphan_after_iff (hm : m.Sound) (hop : m.IsPossible op) (hc : c ∈ m.waiting)
    (hholds : m.requests.holds c.holder = true) :
    (m.after op).IsOrphan c ↔ m.Releases c.holder op ∧ op ≠ .expire c := by
  by_cases hne : op = .expire c
  · subst hne
    exact ⟨fun horphan => absurd horphan.1 (not_waiting_expire m c), fun h => absurd rfl h.2⟩
  rcases after_cases hm hop hc hne with
    ⟨k, hreleases, hrequests, hlooks⟩ | ⟨hnone, hwaits, hrequests⟩
  · -- the operation is done for one holder, so what matters is whether it is the one of the call
    by_cases hk : k = c.holder
    · subst hk
      have hgone : (m.after op).requests.holds c.holder = false := by
        rw [hrequests, Bool.eq_false_iff, ne_eq, Queue.holds_releaseAll]
        exact fun h => h.2 rfl
      have hblocked : (m.after op).lets c = false := by
        rw [Bool.eq_false_iff, ne_eq, lets_iff, hgone]
        exact fun h => Bool.noConfusion h.1
      exact ⟨fun _ => ⟨hreleases, hne⟩, fun _ => ⟨hlooks.mpr hblocked, hgone⟩⟩
    · have hstill : (m.after op).requests.holds c.holder = true := by
        rw [hrequests, Queue.holds_releaseAll]
        exact ⟨hholds, hk⟩
      refine ⟨fun horphan => ?_, fun h => ?_⟩
      · rw [horphan.2] at hstill
        contradiction
      · exact absurd (Option.some.inj (hreleases.holder.symm.trans h.1.holder)) hk
  · have hstill : (m.after op).requests.holds c.holder = true := by
      rcases hrequests with hsame | ⟨k, mode, -, henter⟩
      · rw [hsame, hholds]
      · rw [henter, Queue.holds_enter]
        exact Or.inl hholds
    refine ⟨fun horphan => ?_, fun h => absurd h.1 (hnone _)⟩
    rw [horphan.2] at hstill
    contradiction

/-- Nobody else can let a call through whose holder has no request. -/
theorem IsOrphan.after (hc : m.IsOrphan c) (hm : m.Sound) (hop : m.IsPossible op)
    (hother : op.holder? ≠ some c.holder) : (m.after op).IsOrphan c := by
  have hne : op ≠ .expire c := fun heq => hother (heq ▸ rfl)
  rcases after_cases hm hop hc.1 hne with
    ⟨k, hreleases, hrequests, hlooks⟩ | ⟨hnone, hwaits, hrequests⟩
  · have hgone : (m.after op).requests.holds c.holder = false := by
      rw [hrequests, Bool.eq_false_iff, ne_eq, Queue.holds_releaseAll, hc.2]
      exact fun h => Bool.noConfusion h.1
    refine ⟨hlooks.mpr ?_, hgone⟩
    rw [Bool.eq_false_iff, ne_eq, lets_iff, hgone]
    exact fun h => Bool.noConfusion h.1
  · refine ⟨hwaits, ?_⟩
    rcases hrequests with hsame | ⟨k, mode, rfl, henter⟩
    · rw [hsame, hc.2]
    · have hk : k ≠ c.holder := fun heq => hother (congrArg some heq)
      rw [henter, Bool.eq_false_iff, ne_eq, Queue.holds_enter, hc.2]
      rintro (h | h)
      · contradiction
      · exact hk h

/-! ## Calls that wait in line -/

/-- Every waiting call has a request of its holder in the queue, which is not let through yet. -/
structure InLine (m : LockManager) : Prop where
  sound : m.Sound
  requested : ∀ c ∈ m.waiting, m.requests.holds c.holder = true
  blocked : ∀ c ∈ m.waiting, m.lets c = false

theorem IsNew.inLine (hm : m.IsNew) : m.InLine := by
  have hnone : m.waiting = [] := by
    rw [IsNew] at hm
    rw [hm]
  refine ⟨hm.sound, ?_, ?_⟩ <;> simp [hnone]

/-- A call that goes on waiting with its request is still not let through. -/
theorem InLine.blocked_after (hm : m.InLine) (hop : m.IsPossible op) (hc : c ∈ m.waiting)
    (hstill : c ∈ (m.after op).waiting) : (m.after op).lets c = false := by
  have hne : op ≠ .expire c := by
    rintro rfl
    exact not_waiting_expire m c hstill
  rcases after_cases hm.sound hop hc hne with
    ⟨k, hreleases, hrequests, hlooks⟩ | ⟨hnone, hwaits, hrequests⟩
  · exact hlooks.mp hstill
  · rcases hrequests with hsame | ⟨k, mode, -, henter⟩
    · rw [lets, hsame]
      exact hm.blocked c hc
    -- a new request stands behind the one of the call
    · have hblocked := hm.blocked c hc
      rw [Bool.eq_false_iff, ne_eq, lets_iff] at hblocked ⊢
      rw [henter, Queue.ahead_enter (hm.requested c hc)]
      exact fun h => hblocked ⟨hm.requested c hc, h.2⟩

/-- Calls wait in line as long as none of them is abandoned. -/
theorem InLine.after (hm : m.InLine) (hop : m.IsPossible op) (hkeeps : ¬ m.Abandons op) :
    (m.after op).InLine := by
  have hnew : ∀ c ∈ (m.after op).waiting, c ∉ m.waiting →
      (m.after op).requests.holds c.holder = true ∧ (m.after op).lets c = false := by
    intro c hc hfirst
    obtain ⟨-, h, mode, rfl⟩ := (waiting_after op hc).resolve_left hfirst
    obtain ⟨hholder, hblocked⟩ := lets_of_new hc hfirst
    exact ⟨hholder ▸ holds_lock m h mode, hblocked⟩
  refine ⟨after_sound hm.sound hop, fun c hc => ?_, fun c hc => ?_⟩
  · by_cases hold : c ∈ m.waiting
    · by_contra hgone
      have horphan : (m.after op).IsOrphan c := ⟨hc, by simpa using hgone⟩
      have habandoned := (isOrphan_after_iff hm.sound hop hold (hm.requested c hold)).mp horphan
      exact hkeeps ⟨c, hold, habandoned⟩
    · exact (hnew c hc hold).1
  · by_cases hold : c ∈ m.waiting
    · exact hm.blocked_after hop hold hc
    · exact (hnew c hc hold).2

/-- A waiting call is kept by a request of another holder that stands before its own. -/
theorem InLine.barred (hm : m.InLine) (hc : c ∈ m.waiting) :
    ∃ r ∈ m.requests.ahead c.holder, Bars r c.mode := by
  have hblocked := hm.blocked c hc
  rw [Bool.eq_false_iff, ne_eq, lets_iff] at hblocked
  by_contra hnone
  exact hblocked ⟨hm.requested c hc, fun r hr hbars => hnone ⟨r, hr, hbars⟩⟩

/-- A waiting call that keeps its request returns when its time limit is over or when nothing is in
its way any more, and not before. -/
theorem InLine.waits_iff (hm : m.InLine) (hop : m.IsPossible op) (hc : c ∈ m.waiting)
    (hkeeps : ¬ (m.Releases c.holder op ∧ op ≠ .expire c)) :
    c ∈ (m.after op).waiting ↔
      op ≠ .expire c ∧ ∃ r ∈ (m.after op).requests.ahead c.holder, Bars r c.mode := by
  constructor
  · intro hstill
    have hne : op ≠ .expire c := by
      rintro rfl
      exact not_waiting_expire m c hstill
    have hblocked := hm.blocked_after hop hc hstill
    rw [Bool.eq_false_iff, ne_eq, lets_iff] at hblocked
    have hholds : (m.after op).requests.holds c.holder = true := by
      by_contra hgone
      exact hkeeps ((isOrphan_after_iff hm.sound hop hc (hm.requested c hc)).mp
        ⟨hstill, by simpa using hgone⟩)
    refine ⟨hne, ?_⟩
    by_contra hnone
    exact hblocked ⟨hholds, fun r hr hbars => hnone ⟨r, hr, hbars⟩⟩
  · rintro ⟨hne, r, hr, hbars⟩
    rcases after_cases hm.sound hop hc hne with ⟨k, -, -, hlooks⟩ | ⟨-, hwaits, -⟩
    · rw [hlooks, Bool.eq_false_iff, ne_eq, lets_iff]
      exact fun h => h.2 r hr hbars
    · exact hwaits

/-! ## The whole statement -/

/-- What can be said of the calls that wait, however the calls of a holder overlap. -/
structure WaitsInLine (m : LockManager) : Prop where
  /-- The holder of a waiting call has a request in the queue. -/
  requested : ∀ c ∈ m.waiting, m.requests.holds c.holder = true
  /-- What the call waits for is a request of another holder that stands before it. -/
  barred : ∀ c ∈ m.waiting, ∃ r ∈ m.requests.ahead c.holder, r.holder ≠ c.holder ∧ Bars r c.mode
  /-- As soon as there is none, the call returns, and it returns only then or when its time limit is
  over. -/
  returns : ∀ op, ∀ c ∈ m.waiting, m.IsPossible op → ¬ (m.Releases c.holder op ∧ op ≠ .expire c) →
    (c ∈ (m.after op).waiting ↔
      op ≠ .expire c ∧ ∃ r ∈ (m.after op).requests.ahead c.holder, Bars r c.mode)
  /-- A call loses its request exactly when another call releases or withdraws it. -/
  orphaned : ∀ op, ∀ c ∈ m.waiting, m.IsPossible op →
    ((m.after op).IsOrphan c ↔ m.Releases c.holder op ∧ op ≠ .expire c)
  /-- Then it waits for ever, as far as it depends on other holders. -/
  lost : ∀ op, ∀ c ∈ m.waiting, m.IsPossible op → (m.after op).IsOrphan c → ∀ n,
    Runs after (fun u op => u.IsPossible op ∧ op.holder? ≠ some c.holder) (m.after op) n →
    n.IsOrphan c

theorem InLine.waitsInLine (hm : m.InLine) : m.WaitsInLine where
  requested := hm.requested
  barred := by
    intro c hc
    obtain ⟨r, hr, hbars⟩ := hm.barred hc
    exact ⟨r, hr, Queue.holder_ne_of_mem_ahead hr, hbars⟩
  returns := fun op c hc hop hkeeps => hm.waits_iff hop hc hkeeps
  orphaned := fun op c hc hop => isOrphan_after_iff hm.sound hop hc (hm.requested c hc)
  lost := by
    intro op c hc hop horphan n hrun
    have hkeeps : n.Sound ∧ n.IsOrphan c :=
      hrun.keeps (P := fun u => u.Sound ∧ u.IsOrphan c)
        (fun u op hu hallowed => ⟨after_sound hu.1 hallowed.1,
          hu.2.after hu.1 hallowed.1 hallowed.2⟩) ⟨after_sound hm.sound hop, horphan⟩
    exact hkeeps.2

/-- As long as no call is abandoned, all waiting calls wait in line. -/
theorem waits_in_line {m₀ : LockManager} (hnew : m₀.IsNew)
    (hrun : Runs after (fun u op => u.IsPossible op ∧ ¬ u.Abandons op) m₀ m) : m.WaitsInLine := by
  have hinLine : m.InLine :=
    hrun.keeps (fun u op hu hallowed => hu.after hallowed.1 hallowed.2) hnew.inLine
  exact hinLine.waitsInLine

/-- Two calls of one holder wait for a writer, with one request between them. -/
theorem waits_in_line_twice :
    ∃ m : LockManager, m.waiting.map Call.holder = [⟨2⟩, ⟨2⟩] ∧ m.requests.length = 2 ∧
      m.WaitsInLine := by
  refine ⟨(((((({ } : LockManager).after .register).after .register).after
    (.ask ⟨1⟩ .exclusive)).after (.ask ⟨2⟩ .shared)).after (.ask ⟨2⟩ .shared)), by decide,
    by decide, ?_⟩
  have hnew : ({ } : LockManager).IsNew := rfl
  refine waits_in_line hnew ?_
  exact (((((Runs.refl _).then Operation.register (by decide)).then Operation.register
    (by decide)).then (Operation.ask ⟨1⟩ .exclusive) (by decide)).then
    (Operation.ask ⟨2⟩ .shared) (by decide)).then (Operation.ask ⟨2⟩ .shared) (by decide)

/-- The locks of a holder are released while a call of it waits.  The call goes on waiting, although
there is no request in the queue any more. -/
theorem waiting_abandoned :
    ¬ ∀ m : LockManager, m.IsReached → ∀ c ∈ m.waiting, m.requests.holds c.holder = true := by
  intro hrequested
  have hnew : ({ } : LockManager).IsNew := rfl
  have hholds := hrequested _ ⟨{ }, hnew, ((((((Runs.refl _).then Operation.register
    (by decide)).then Operation.register (by decide)).then (Operation.ask ⟨1⟩ .exclusive)
    (by decide)).then (Operation.ask ⟨2⟩ .exclusive) (by decide)).then (Operation.unlockAll ⟨2⟩)
    (by decide)).then (Operation.unlockAll ⟨1⟩) (by decide)⟩ ⟨0, ⟨2⟩, .exclusive, true⟩ (by decide)
  exact absurd hholds (by decide)

end LockManager

end GraphCommit
