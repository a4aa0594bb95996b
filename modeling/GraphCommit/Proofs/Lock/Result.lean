import GraphCommit.Proofs.Lock.Front

/-!
# What calls for the lock come to

A call for the lock has no result while it waits.  Later its result is that it was let through, that
it was refused, or that it gave up because its time limit was over (`result?`); this is what the
call returns when it is waited for (`await_result?`).

The list of the calls that gave up only grows, and grows by one call whenever a time limit is over
(`mem_gaveUp_after`).  A call that gives up is told so at the very end of its waiting, when the
queue does not let it through, and it takes its own request out of the queue and no other
(`GivesUp`, `gives_up_of_timeout`).
-/

namespace GraphCommit

namespace LockManager

open Lock

variable {m m₀ : LockManager} {h : Holder} {mode : Mode} {op : Operation} {ops : List Operation}
  {answer : Answer} {ticket : Nat}

/-- What a call with the given answer has come to by now; none while it waits. -/
def result? (m : LockManager) : Answer → Option (Except Fault Unit)
  | .granted => some (.ok ())
  | .refused => some (.error .lockUpgrade)
  | .waiting ticket =>
    if m.isWaiting ticket then none
    else if m.gaveUp.contains ticket then some (.error (.lockTimeout (m.timeout.getD ⟨0⟩)))
    else some (.ok ())

/-- Whether a call with the given answer has come to a fault by now. -/
def hasFailed (m : LockManager) (answer : Answer) : Bool :=
  match m.result? answer with
  | some (.error _) => true
  | _ => false

theorem isWaiting_iff : m.isWaiting ticket = true ↔ ∃ c ∈ m.waiting, c.ticket = ticket := by
  simp [isWaiting]

theorem isWaiting_of_mem {c : Call} (hc : c ∈ m.waiting) : m.isWaiting c.ticket = true :=
  isWaiting_iff.mpr ⟨c, hc, rfl⟩

/-- A call that gave up waits no longer. -/
theorem Coherent.waits_not_of_gaveUp (hm : m.Coherent) (hgave : ticket ∈ m.gaveUp) :
    m.isWaiting ticket = false := by
  rw [Bool.eq_false_iff]
  intro hwaits
  obtain ⟨c, hc, heq⟩ := isWaiting_iff.mp hwaits
  exact (hm.gaveUp ticket hgave).2 c hc heq

theorem Coherent.result?_waiting (hm : m.Coherent) :
    m.result? (.waiting ticket) =
      if ticket ∈ m.gaveUp then some (.error (.lockTimeout (m.timeout.getD ⟨0⟩)))
      else if m.isWaiting ticket then none else some (.ok ()) := by
  by_cases hgave : ticket ∈ m.gaveUp
  · simp [result?, hgave, hm.waits_not_of_gaveUp hgave]
  · simp [result?, hgave]

theorem Coherent.result?_eq_ok_iff (hm : m.Coherent) :
    m.result? (.waiting ticket) = some (.ok ()) ↔
      ticket ∉ m.gaveUp ∧ m.isWaiting ticket = false := by
  rw [hm.result?_waiting]
  by_cases hgave : ticket ∈ m.gaveUp
  · simp [hgave]
  · cases hwaits : m.isWaiting ticket with
    | true => simp [hgave]
    | false => simp [hgave]

theorem Coherent.hasFailed_waiting (hm : m.Coherent) :
    m.hasFailed (.waiting ticket) = true ↔ ticket ∈ m.gaveUp := by
  rw [hasFailed, hm.result?_waiting]
  by_cases hgave : ticket ∈ m.gaveUp
  · simp [hgave]
  · cases hwaits : m.isWaiting ticket with
    | true => simp [hgave]
    | false => simp [hgave]

/-- A holder that does not stand in the queue enters it, and is let through at once or waits. -/
theorem lock_enters (hm : m.Coherent) (hh : m.IsQuiet h) (hholds : m.requests.holds h = false)
    (mode : Mode) :
    (m.lock h mode).2.requests = m.requests.enter h mode ∧
      ((m.lock h mode).1 = .granted ∨
        (m.requests.enter h mode).free h mode = false ∧
          (m.lock h mode).1 = .waiting m.tickets ∧
          (m.lock h mode).2.waiting = m.waiting ++ [⟨m.tickets, h, mode, true⟩]) := by
  rcases lock_cases hm hh mode with ⟨own, hgrants, -⟩ | ⟨-, -, hlock⟩ | ⟨-, hfree, hlock⟩
  · exact absurd rfl (Queue.not_holds hholds hgrants.1)
  · rw [hlock]
    exact ⟨rfl, Or.inl rfl⟩
  · rw [hlock]
    exact ⟨rfl, Or.inr ⟨hfree, rfl, rfl⟩⟩

/-! ## Waiting for a result -/

theorem expire_length {c : Call} (hc : c ∈ m.waiting) :
    (m.expire c).waiting.length < m.waiting.length := by
  -- the call that gives up is one of those that are left out
  have hrest : (m.waiting.filter fun d => d.ticket != c.ticket).length < m.waiting.length :=
    List.length_filter_lt_length_iff_exists.mpr ⟨c, hc, by simp⟩
  unfold expire
  dsimp only
  split
  · exact hrest
  · split
    · exact Nat.lt_of_le_of_lt (List.length_filter_le _ _) hrest
    · exact hrest

/-- When enough time has gone by, a call waits no longer. -/
theorem elapse_returns {steps : Nat} (hm : m.Coherent) (hsteps : m.waiting.length ≤ steps) :
    (m.elapse ticket steps).isWaiting ticket = false ∧
      (m.elapse ticket steps).timeout = m.timeout := by
  -- by induction on the steps: each of them lets at least one call give up
  induction steps generalizing m with
  | zero =>
    have hnone : m.waiting = [] := List.eq_nil_of_length_eq_zero (by omega)
    simp [elapse, isWaiting, hnone]
  | succ steps ih =>
    cases hwaits : m.isWaiting ticket with
    | false => simp [elapse, hwaits]
    | true =>
      obtain ⟨c, hc, -⟩ := isWaiting_iff.mp hwaits
      cases hwaiting : m.waiting with
      | nil => simp [hwaiting] at hc
      | cons first rest =>
        have hfirst : first ∈ m.waiting := by simp [hwaiting]
        have hlength := expire_length hfirst
        obtain ⟨hreturned, htimeout⟩ := ih (expire_coherent hm hfirst) (by omega)
        have hlimit : (m.expire first).timeout = m.timeout := (expire_spares hm hfirst).timeout
        simp only [elapse, hwaits, hwaiting, if_true]
        exact ⟨hreturned, htimeout.trans hlimit⟩

/-- What waiting for a call returns is what the call has come to by then. -/
theorem await_result? (hm : m.Coherent) (hnever : m.timeout = none → m.gaveUp = [])
    (answer : Answer) : (m.await answer).1 = (m.await answer).2.result? answer := by
  cases answer with
  | granted => rfl
  | refused => rfl
  | waiting ticket =>
    cases hlimit : m.timeout with
    | none => simp [await, result?, hlimit, hnever hlimit]
    | some limit =>
      obtain ⟨hreturned, htimeout⟩ :
          (m.elapse ticket m.waiting.length).isWaiting ticket = false ∧
            (m.elapse ticket m.waiting.length).timeout = m.timeout :=
        elapse_returns hm (Nat.le_refl _)
      rw [hlimit] at htimeout
      simp only [await, hlimit, result?, hreturned, htimeout]
      split <;> simp

/-! ## Giving up -/

/-- The tickets of the calls that give up in the course of an operation. -/
def givenUpBy : Operation → List Nat
  | .expire c => [c.ticket]
  | _ => []

/-- What an operation makes of what is not about the queue. -/
theorem after_beside_queue (hm : m.Coherent) (hop : m.TakesTurns op) :
    (m.after op).gaveUp = givenUpBy op ++ m.gaveUp ∧
      (m.after op).registered = m.registered + (if op = .register then 1 else 0) ∧
      (m.after op).timeout = m.timeout := by
  cases op with
  | register => exact ⟨rfl, rfl, rfl⟩
  | ask h mode =>
    change (m.lock h mode).2.gaveUp = _ ∧ (m.lock h mode).2.registered = _ ∧
      (m.lock h mode).2.timeout = _
    rcases lock_cases hm hop.2 mode with ⟨own, -, hlock⟩ | ⟨-, -, hlock⟩ | ⟨-, -, hlock⟩ <;>
      rw [hlock] <;> exact ⟨rfl, rfl, rfl⟩
  | unlockRead h =>
    change (m.unlockRead h).gaveUp = _ ∧ (m.unlockRead h).registered = _ ∧
      (m.unlockRead h).timeout = _
    rcases unlockRead_cases hm.single h with ⟨-, heq⟩ | ⟨-, heq⟩ <;>
      rw [heq] <;> exact ⟨rfl, rfl, rfl⟩
  | unlockAll h => exact ⟨rfl, rfl, rfl⟩
  | expire c =>
    change (m.expire c).gaveUp = _ ∧ (m.expire c).registered = _ ∧ (m.expire c).timeout = _
    rw [expire_eq hm hop.2]
    exact ⟨rfl, rfl, rfl⟩

theorem timeout_after (hm : m.Coherent) (hop : m.TakesTurns op) :
    (m.after op).timeout = m.timeout := (after_beside_queue hm hop).2.2

/-- A call gives up exactly when its time limit is over. -/
theorem mem_gaveUp_after (hm : m.Coherent) (hop : m.TakesTurns op) :
    ticket ∈ (m.after op).gaveUp ↔
      ticket ∈ m.gaveUp ∨ ∃ c ∈ m.waiting, op = .expire c ∧ c.ticket = ticket := by
  rw [(after_beside_queue hm hop).1, List.mem_append, or_comm]
  refine or_congr_right ?_
  cases op with
  | expire c =>
    constructor
    · intro hgives
      exact ⟨c, hop.2, rfl, (List.mem_singleton.mp hgives).symm⟩
    · rintro ⟨d, -, heq, rfl⟩
      cases heq
      exact List.mem_singleton_self _
  | _ => simp [givenUpBy]

theorem exists_spares_after (hm : m.Coherent) (hop : m.TakesTurns op) :
    ∃ h, Spares h m (m.after op) := by
  obtain ⟨k, hk⟩ : ∃ k, op.holder? ≠ some k := by
    cases hholder : op.holder? with
    | none => exact ⟨⟨0⟩, by simp⟩
    | some h => exact ⟨⟨h.number + 1⟩, fun heq =>
        Nat.succ_ne_self _ (congrArg Holder.number (Option.some.inj heq)).symm⟩
  obtain ⟨h, -, hspares⟩ := after_spares hm hop hk
  exact ⟨h, hspares⟩

theorem tickets_after (hm : m.Coherent) (hop : m.TakesTurns op) :
    m.tickets ≤ (m.after op).tickets :=
  let ⟨_, hspares⟩ := exists_spares_after hm hop
  hspares.issued

theorem tickets_afterAll (hm : m.Coherent) (hops : m.AllTakeTurns ops) :
    m.tickets ≤ (m.afterAll ops).tickets := by
  induction ops generalizing m with
  | nil => exact Nat.le_refl _
  | cons op ops ih =>
    exact Nat.le_trans (tickets_after hm hops.1) (ih (after_coherent hm hops.1) hops.2)

/-- A call that waits after an operation has waited before, or it has just been made. -/
theorem waiting_after_cases (hm : m.Coherent) (hop : m.TakesTurns op) {c : Call}
    (hc : c ∈ (m.after op).waiting) :
    c ∈ m.waiting ∨ op = .ask c.holder c.mode ∧ c.ticket = m.tickets ∧
      (m.lock c.holder c.mode).1 = .waiting m.tickets := by
  rcases waiting_after op hc with hold | ⟨hticket, h, mode, rfl⟩
  · exact Or.inl hold
  · change c ∈ (m.lock h mode).2.waiting at hc
    rcases lock_cases hm hop.2 mode with ⟨own, -, hlock⟩ | ⟨-, -, hlock⟩ | ⟨-, -, hlock⟩
    · exact Or.inl (by simpa [hlock] using hc)
    · exact Or.inl (by simpa [hlock] using hc)
    · rw [hlock] at hc
      rcases List.mem_append.mp hc with hold | hnew
      · exact Or.inl hold
      · rw [List.mem_singleton.mp hnew]
        exact Or.inr ⟨rfl, rfl, by rw [hlock]⟩

/-- A call waits on as long as its holder has a call that waits. -/
theorem stays_of_not_quiet (hm : m.Coherent) (hop : m.TakesTurns op) {c : Call}
    (hc : c ∈ m.waiting) (hbusy : ¬ (m.after op).IsQuiet c.holder) : c ∈ (m.after op).waiting := by
  obtain ⟨d, hd, hholder⟩ : ∃ d ∈ (m.after op).waiting, d.holder = c.holder := by
    simpa [IsQuiet] using hbusy
  rcases waiting_after_cases hm hop hd with hold | ⟨rfl, -, -⟩
  · exact List.inj_on_of_nodup_map hm.callers hold hc hholder ▸ hd
  · exact absurd hholder.symm (hop.2 c hc)

/-- A ticket that is waited for under stays with its call. -/
theorem eq_of_ticket_after (hm : m.Coherent) {c d : Call} (hc : c ∈ m.waiting)
    (hd : d ∈ (m.after op).waiting) (heq : d.ticket = c.ticket) : d = c := by
  rcases waiting_after op hd with hold | ⟨hnew, -⟩
  · exact List.inj_on_of_nodup_map hm.tickets hold hc heq
  · exact absurd (heq.symm.trans hnew) (Nat.ne_of_lt (hm.issued c hc))

/-- What a call has come to does not change any more. -/
theorem returned_after (hm : m.Coherent) (hop : m.TakesTurns op) (hissued : ticket < m.tickets)
    (hreturned : m.isWaiting ticket = false) :
    (m.after op).isWaiting ticket = false ∧
      (ticket ∈ (m.after op).gaveUp ↔ ticket ∈ m.gaveUp) := by
  have hnone : ∀ c ∈ m.waiting, c.ticket ≠ ticket := by
    intro c hc heq
    rw [← heq, isWaiting_of_mem hc] at hreturned
    contradiction
  constructor
  · rw [Bool.eq_false_iff]
    intro hwaits
    obtain ⟨c, hc, heq⟩ := isWaiting_iff.mp hwaits
    rcases waiting_after op hc with hold | ⟨hnew, -⟩
    · exact hnone c hold heq
    · omega
  · rw [mem_gaveUp_after hm hop, or_iff_left]
    rintro ⟨c, hc, -, heq⟩
    exact hnone c hc heq

theorem returned_afterAll (hm : m.Coherent) (hops : m.AllTakeTurns ops)
    (hissued : ticket < m.tickets) (hreturned : m.isWaiting ticket = false) :
    (m.afterAll ops).isWaiting ticket = false ∧
      (ticket ∈ (m.afterAll ops).gaveUp ↔ ticket ∈ m.gaveUp) := by
  induction ops generalizing m with
  | nil => exact ⟨hreturned, Iff.rfl⟩
  | cons op ops ih =>
    obtain ⟨hfirst, hsame⟩ := returned_after hm hops.1 hissued hreturned
    have hissued' := Nat.lt_of_lt_of_le hissued (tickets_after hm hops.1)
    obtain ⟨hlast, hrest⟩ := ih (after_coherent hm hops.1) hops.2 hissued' hfirst
    exact ⟨hlast, hrest.trans hsame⟩

/-- In the course of an operation a call of a holder gives up: its request stands in the queue and
is not let through, and afterwards it has left the queue, in which all others stand as before. -/
structure GivesUp (m : LockManager) (op : Operation) (h : Holder) (mode : Mode) : Prop where
  expires : ∃ c ∈ m.waiting, op = .expire c ∧ c.holder = h ∧ c.mode = mode
  stands : ⟨h, mode⟩ ∈ m.requests
  blocked : m.requests.free h mode = false
  withdrawn : (m.after op).requests = m.requests.releaseAll h
  absent : (m.after op).requests.holds h = false

theorem gives_up_of_expire (hm : m.Coherent) {c : Call} (hc : c ∈ m.waiting) :
    m.GivesUp (.expire c) c.holder c.mode := by
  have hquit : m.after (.expire c) = m.quit c.holder (c.ticket :: m.gaveUp) := expire_eq hm hc
  refine ⟨⟨c, hc, rfl, rfl, rfl⟩, (hm.entered c hc).2, hm.blocked c hc, ?_, ?_⟩
  · rw [hquit]
    rfl
  · rw [hquit]
    exact quit_holds m c.holder _

/-- A call that waits and gives up by the end of a run gives up in the course of one operation. -/
theorem gives_up_in_run (hm : m.Coherent) (hops : m.AllTakeTurns ops) {c : Call}
    (hc : c ∈ m.waiting) (hgave : c.ticket ∈ (m.afterAll ops).gaveUp) :
    ∃ before op later, ops = before ++ op :: later ∧
      (m.afterAll before).GivesUp op c.holder c.mode := by
  -- by induction on the operations, up to the one in whose course the call no longer waits
  induction ops generalizing m with
  | nil => exact absurd rfl ((hm.gaveUp _ hgave).2 c hc)
  | cons op ops ih =>
    by_cases hover : op = .expire c
    · subst hover
      exact ⟨[], .expire c, ops, rfl, gives_up_of_expire hm hc⟩
    · have hnext := after_coherent hm hops.1
      by_cases hstill : c ∈ (m.after op).waiting
      · obtain ⟨before, last, later, rfl, hgives⟩ := ih hnext hops.2 hstill hgave
        exact ⟨op :: before, last, later, rfl, hgives⟩
      · -- it was let through, and then it never gives up
        exfalso
        have hreturned : (m.after op).isWaiting c.ticket = false := by
          rw [Bool.eq_false_iff]
          intro hwaits
          obtain ⟨d, hd, heq⟩ := isWaiting_iff.mp hwaits
          exact hstill (eq_of_ticket_after hm hc hd heq ▸ hd)
        have hissued := Nat.lt_of_lt_of_le (hm.issued c hc) (tickets_after hm hops.1)
        have hstays : c.ticket ∉ (m.after op).gaveUp := by
          rw [mem_gaveUp_after hm hops.1]
          rintro (hold | ⟨d, hd, heq, hticket⟩)
          · exact (hm.gaveUp _ hold).2 c hc rfl
          · exact hover (List.inj_on_of_nodup_map hm.tickets hd hc hticket ▸ heq)
        exact hstays ((returned_afterAll hnext hops.2 hissued hreturned).2.mp hgave)

end LockManager

end GraphCommit
