import GraphCommit.Proofs.Handles
import GraphCommit.Proofs.Lock.Result

/-!
# Operations as a whole

An access and a close are single operations of a connector, and a schedule takes them apart so that
those of other connections can come in between.  If none does, the parts make up the whole: a run in
which only one connection moves, while waiting calls may run into their time limits, leaves the
connector as the operation itself leaves it (`access_carried`, `close_carried`).

An operation that waits for the lock without a time limit, and for which nobody is left to release
it, never returns.  Its run ends where it waits.  Accesses of other threads are tasks of the
schedule here, so the connector itself keeps none.
-/

namespace GraphCommit

/-- A move of one connection on its own, or a call that runs into its time limit. -/
inductive Move.IsOf (i : Nat) : Move → Prop
  | invalidate (h : Handle) (hconnection : h.connection = i) : IsOf i (.invalidate h)
  | beginAccess (a : Access) : IsOf i (.beginAccess i a)
  | beginRelease : IsOf i (.beginRelease i)
  | expire (call : Lock.Call) : IsOf i (.expire call)
  | proceed : IsOf i (.proceed i)
  | carryOut : IsOf i (.carryOut i)
  | endQuery : IsOf i (.endQuery i)
  | endRelease : IsOf i (.endRelease i)
  | tell : IsOf i (.tell i)

namespace Schedule

open Connector Effect

variable {S α : Type} [Backend S] {s : Schedule S} {i : Nat} {c d : Connector S} {task : Task}

/-- A run of one connection on its own that leaves a connector, and the connection in the middle of
a task. -/
def Brings (s : Schedule S) (i : Nat) (d : Connector S) (task : Task) : Prop :=
  Leads (fun _ m => m.IsOf i) s ⟨d, Function.update s.tasks i task⟩

/-- Nothing has happened yet. -/
theorem brings_refl (htask : s.tasks i = task) : s.Brings i s.connector task := by
  unfold Brings
  rw [← htask, Function.update_eq_self]
  exact .refl

/-- Another part of the operation. -/
theorem Brings.turn {m : Move} {r : Run S Task} {next : Task} {e : Connector S}
    (hbrings : s.Brings i d task) (hown : m.IsOf i)
    (hstep : ∀ u : Schedule S, u.connector = d → u.tasks i = task →
      (∀ j, j ≠ i → u.tasks j = s.tasks j) → Step u m (u.turn i r))
    (hr : r d = (.ok next, e)) : s.Brings i e next := by
  have hturn := hstep ⟨d, Function.update s.tasks i task⟩ rfl (Function.update_self ..)
    fun j hj => Function.update_of_ne hj ..
  have hnext : Schedule.turn ⟨d, Function.update s.tasks i task⟩ i r =
      ⟨e, Function.update s.tasks i next⟩ := by
    unfold Schedule.turn
    rw [hr]
    dsimp only
    rw [Function.update_idem]
  rw [hnext] at hturn
  exact hbrings.tail hown hturn

/-- Something else that changes no task. -/
theorem Brings.after {m : Move} {r : Run S α} (hbrings : s.Brings i d task) (hown : m.IsOf i)
    (hstep : ∀ u : Schedule S, u.connector = d → Step u m (u.after r)) :
    s.Brings i (r d).2 task :=
  hbrings.tail hown (hstep _ rfl)

theorem Leads.size_le {allowed : Schedule S → Move → Prop} {s t : Schedule S}
    (hrun : Leads allowed s t) : s.size ≤ t.size := by
  induction hrun with
  | refl => exact Nat.le_refl _
  | tail _ _ hstep ih => exact Nat.le_trans ih hstep.size_le

theorem Brings.size_le (hbrings : s.Brings i d task) : s.size ≤ d.connections.length :=
  Leads.size_le hbrings

/-! ## Waiting for the lock -/

/-- Where no accesses of other threads are kept, none of them goes on. -/
theorem settle_of_none (hpending : c.pending = []) : settle c = c := by
  unfold settle
  rw [hpending]
  rfl

omit [Backend S] in
theorem pending_expire (call : Lock.Call) (c : Connector S) :
    (expire call c).2.pending = c.pending := by
  simp only [expire, bind_apply, get_apply, set_apply]
  split <;> rfl

/-- The time limits run out one after another, and then the call has returned.  Without a time limit
it waits. -/
theorem Brings.elapse (ticket n : Nat) (hbrings : s.Brings i d task)
    (hpending : d.pending = []) :
    ∃ e, s.Brings i e task ∧ e.pending = [] ∧
      (Connector.elapse ticket n d = (.error .blocked, e) ∨
        Connector.elapse ticket n d = (.ok (), e) ∧
          (d.locks.waiting.length < n → e.locks.isWaiting ticket = false)) := by
  -- by induction on the number of rounds: in each of them the oldest call gives up
  induction n generalizing d with
  | zero =>
    exact ⟨d, hbrings, hpending, Or.inr ⟨rfl, fun hlt => absurd hlt (Nat.not_lt_zero _)⟩⟩
  | succ n ih =>
    have hsettled : (modify settle : Run S PUnit) d = (.ok (), d) := by
      change (Except.ok (), settle d) = _
      rw [settle_of_none hpending]
    unfold Connector.elapse
    rw [bind_apply, hsettled]
    dsimp only
    rw [bind_apply, get_apply]
    dsimp only
    cases hwaits : d.locks.isWaiting ticket with
    | false => exact ⟨d, hbrings, hpending, Or.inr ⟨rfl, fun _ => hwaits⟩⟩
    | true =>
      simp only [if_true]
      cases hlimit : d.locks.timeout with
      | none => exact ⟨d, hbrings, hpending, Or.inl rfl⟩
      | some limit =>
        cases hwaiting : d.locks.waiting with
        | nil => simp [LockManager.isWaiting, hwaiting] at hwaits
        | cons call rest =>
          have hcall : call ∈ d.locks.waiting := by simp [hwaiting]
          have hexpired := hbrings.after (r := expire call) (.expire call) fun u hu => by
            subst hu
            exact .expire (by rw [hlimit]; rfl) hcall
          have hpending' := (pending_expire call d).trans hpending
          have hshorter : (expire call d).2.locks.waiting.length < d.locks.waiting.length := by
            have hlocks : (expire call d).2.locks = d.locks.expire call :=
              congrArg Core.locks (expire_core call d)
            rw [hlocks]
            exact LockManager.expire_length hcall
          obtain ⟨e, he, hnone, hends⟩ := ih hexpired hpending'
          have hround : (expireOldest : Run S Unit) d = (.ok (), (expire call d).2) := by
            simp only [expireOldest, bind_apply, get_apply, hwaiting]
            simp only [expire, bind_apply, get_apply, set_apply]
            split <;> rfl
          refine ⟨e, he, hnone, ?_⟩
          simp only [Option.isNone_some, Bool.false_eq_true, if_false, bind_apply, hround]
          rcases hends with hblocked | ⟨hok, hreturned⟩
          · exact Or.inl hblocked
          · refine Or.inr ⟨hok, fun hlt => hreturned ?_⟩
            rw [hwaiting] at hshorter
            omega

/-- Where waiting for the lock has brought some work. -/
inductive Awaited (work : Work) : Except Halt Unit → Task → Prop
  | granted : Awaited work (.ok ()) (.ready work)
  | failed (f : Fault) : Awaited work (.error (.fault f)) (work.failed f)
  | blocked (ticket : Nat) : Awaited work (.error .blocked) (.waiting ticket work)

/-- A call for the lock was answered, and the answer is waited for. -/
theorem Brings.await {work : Work} {answer : Lock.Answer}
    (hbrings : s.Brings i d (work.answered answer)) (hpending : d.pending = []) :
    ∃ result e task, Connector.await answer d = (result, e) ∧ s.Brings i e task ∧
      Awaited work result task := by
  cases answer with
  | granted => exact ⟨_, d, _, rfl, hbrings, .granted⟩
  | refused => exact ⟨_, d, _, rfl, hbrings, .failed .lockUpgrade⟩
  | waiting ticket =>
    obtain ⟨e, he, -, hends⟩ := hbrings.elapse ticket (d.locks.waiting.length + 1)
      hpending
    unfold Connector.await
    dsimp only
    rw [bind_apply, get_apply]
    dsimp only
    rw [bind_apply]
    rcases hends with hblocked | ⟨hok, hreturned⟩
    · rw [hblocked]
      exact ⟨_, e, _, rfl, he, .blocked ticket⟩
    · -- there were more rounds than there are calls that wait, so this one has returned
      have hreturned := hreturned (Nat.lt_succ_self _)
      have hproceed : ∀ u : Schedule S, u.connector = e → u.tasks i = .waiting ticket work →
          (∀ j, j ≠ i → u.tasks j = s.tasks j) →
          Step u (.proceed i) (u.turn i (Connector.proceed ticket work)) := by
        rintro u rfl htask -
        exact .proceed htask hreturned
      rw [hok]
      dsimp only
      rw [bind_apply, get_apply]
      dsimp only
      cases houtcome : e.outcome ticket with
      | ok _ =>
        have hready : Connector.proceed ticket work e = (.ok (.ready work), e) := by
          simp only [Connector.proceed, bind_apply, get_apply, houtcome, pure_apply]
        exact ⟨_, e, _, rfl, he.turn .proceed hproceed hready, .granted⟩
      | error f =>
        have hfailed : Connector.proceed ticket work e = (.ok (work.failed f), e) := by
          simp only [Connector.proceed, bind_apply, get_apply, houtcome, pure_apply]
        exact ⟨_, e, _, rfl, he.turn .proceed hproceed hfailed, .failed f⟩

omit [Backend S] in
theorem exists_ask (i : Nat) (mode : Lock.Mode) (c : Connector S) :
    ∃ answer d, ask i mode c = (.ok answer, d) := by
  obtain ⟨d, hask, -⟩ := yields_ask i mode c
  exact ⟨_, d, hask⟩

/-- A connection that has begun work asks for its lock and waits for it. -/
theorem Brings.acquire {work : Work} {mode : Lock.Mode} {answer : Lock.Answer}
    (hask : ask i mode c = (.ok answer, d)) (hbrings : s.Brings i d (work.answered answer))
    (hpending : c.pending = []) :
    ∃ result e task, Connector.acquire i mode c = (result, e) ∧ s.Brings i e task ∧
      Awaited work result task := by
  have hnone : d.pending = [] := by
    have hsame : (ask i mode c).2.pending = c.pending := by
      simp only [ask, bind_apply, get_apply, set_apply]
      split <;> rfl
    rw [hask] at hsame
    exact hsame.trans hpending
  obtain ⟨result, e, task, hawait, hrest⟩ := hbrings.await hnone
  refine ⟨result, e, task, ?_, hrest⟩
  rw [Connector.acquire, bind_apply, hask]
  exact hawait

/-! ## Whole operations -/

/-- An operation of one connection, carried out in a schedule by the moves of this connection alone.
If the operation returns, the connection is idle afterwards. -/
structure Carries (s : Schedule S) (i : Nat) (r : Run S α) (t : Schedule S) : Prop where
  leads : Leads (fun _ m => m.IsOf i) s t
  connector : t.connector = (r s.connector).2
  others : ∀ j, j ≠ i → t.tasks j = s.tasks j
  idle : (r s.connector).1 ≠ .error .blocked → t.tasks i = .idle

theorem Brings.carries (r : Run S α) (task : Task) (hbrings : s.Brings i (r s.connector).2 task)
    (hidle : (r s.connector).1 ≠ .error .blocked → task = .idle) :
    ∃ t, s.Carries i r t := by
  refine ⟨_, hbrings, rfl, fun j hj => Function.update_of_ne hj _ _, fun hreturns => ?_⟩
  exact (Function.update_self i task s.tasks).trans (hidle hreturns)

/-- Once its lock is granted, an access is completed. -/
theorem Brings.complete (a : Access) (hbrings : s.Brings i d (.ready (.ofAccess a))) :
    s.Brings i (Connector.complete i a d).2 .idle := by
  cases a with
  | write w =>
    obtain ⟨e, hcarry, -⟩ := yields_carryOut_write i w d
    have hsame : (Connector.complete i (.write w) d).2 = e := by
      have hstate := congrArg Prod.snd hcarry
      rw [Connector.carryOut, bind_pure_snd, observe_snd] at hstate
      rw [Connector.complete, bind_pure_snd]
      exact hstate
    rw [hsame]
    exact hbrings.turn .carryOut (fun u _ htask _ => .carryOut htask) hcarry
  | select text =>
    obtain ⟨e, hcarry, -⟩ := yields_carryOut_select i text d
    have hquery : query i text d =
        (.ok (Backend.select d.core.stores (d.core.connection i).client text).result, e) := by
      simp only [Connector.carryOut, query, bind_apply, connectionAt_apply, observe_job_apply,
        pure_apply] at hcarry ⊢
      exact Prod.ext rfl (Prod.mk.inj hcarry).2
    have hread := hbrings.turn .carryOut (fun u _ htask _ => .carryOut htask) hcarry
    have hlast : Connector.endQuery i e = (.ok .idle, (unlockRead i e).2) := rfl
    have hsame : (Connector.complete i (.select text) d).2 = (unlockRead i e).2 := by
      unfold Connector.complete
      dsimp only
      rw [bind_apply, hquery]
      dsimp only
      rw [bind_apply, show unlockRead i e = (.ok (), (unlockRead i e).2) from rfl]
      dsimp only
      cases (Backend.select d.core.stores (d.core.connection i).client text).result <;> rfl
    rw [hsame]
    exact hread.turn .endQuery (fun u _ htask _ => .endQuery htask) hlast

/-- An access by a caller that waits for it is a run of its connection. -/
theorem access_carried (hfree : s.IsFree i) (hpending : s.connector.pending = []) (a : Access) :
    ∃ t, s.Carries i (access i a) t := by
  obtain ⟨answer, d, hask⟩ := exists_ask i a.mode s.connector
  have hbegin : Connector.beginAccess i a s.connector =
      (.ok ((Work.ofAccess a).answered answer), d) := by
    rw [Connector.beginAccess, bind_apply, hask]
    rfl
  have hbegun := (brings_refl hfree.2).turn (.beginAccess a) (fun u hu htask _ => by
    refine .beginAccess a ⟨?_, htask⟩
    have hsize := hfree.1
    rw [size, ← hu] at hsize
    exact hsize) hbegin
  obtain ⟨result, e, task, hacquire, hbrings, hawaited⟩ := hbegun.acquire hask hpending
  -- where the lock is neither granted nor refused in time, the access does not return
  cases hawaited with
  | granted =>
    have haccess : access i a s.connector = complete i a e := by
      rw [access, bind_apply, hacquire]
    refine Brings.carries _ .idle ?_ fun _ => rfl
    rw [haccess]
    exact hbrings.complete a
  | failed f =>
    have haccess : access i a s.connector = (.error (.fault f), e) := by
      rw [access, bind_apply, hacquire]
    refine Brings.carries _ .idle ?_ fun _ => rfl
    rw [haccess]
    cases a <;> exact hbrings
  | blocked ticket =>
    have haccess : access i a s.connector = (.error .blocked, e) := by
      rw [access, bind_apply, hacquire]
    refine Brings.carries (access i a) (.waiting ticket (.ofAccess a)) ?_ ?_
    · rw [haccess]
      exact hbrings
    · rw [haccess]
      exact fun hreturns => absurd rfl hreturns

/-- An access through a handle does nothing if the handle is not valid. -/
theorem accessThrough_carried {h : Handle} (hfree : s.IsFree h.connection)
    (hpending : s.connector.pending = []) (a : Access) :
    ∃ t, s.Carries h.connection (accessThrough h a) t := by
  cases hvalid : s.connector.isValid h with
  | false =>
    have hrefused : accessThrough h a s.connector =
        (.error (.fault .handleInvalidated), s.connector) := by
      rw [accessThrough, bind_apply, through_of_invalid hvalid]
    refine Brings.carries _ .idle ?_ fun _ => rfl
    rw [hrefused]
    exact brings_refl hfree.2
  | true =>
    have hthrough : accessThrough h a s.connector = access h.connection a s.connector := by
      rw [accessThrough, bind_apply, through_of_valid hvalid]
    obtain ⟨t, hleads, hconnector, hothers, hidle⟩ := access_carried hfree hpending a
    rw [← hthrough] at hconnector hidle
    exact ⟨t, hleads, hconnector, hothers, hidle⟩

/-- What a release comes to before its listeners are told. -/
inductive Released : Except Halt (Except Fault (Option Derivation.Report)) → Task → Prop
  | derived (result : Except Fault (Option Derivation.Report)) :
    Released (.ok result) (.closing result)
  | blocked (ticket : Nat) (work : Work) : Released (.error .blocked) (.waiting ticket work)

/-- Once its lock is granted, a derivation is carried out. -/
theorem Brings.derive {context : String} {writes : List Write}
    (hbrings : s.Brings i d (.ready (.derive context writes))) :
    ∃ derived e, observe (some <$> Connector.derive i context writes) d = (.ok derived, e) ∧
      s.Brings i e (.closing derived) := by
  have hderive : Connector.derive i context writes d =
      job (Derivation.run (d.connection i).client context writes) d := by
    rw [Connector.derive, bind_apply, connectionAt_apply]
  have hobserve : observe (Connector.derive i context writes) d =
      (.ok (Derivation.run (d.connection i).client context writes d.outside).1,
        (Connector.derive i context writes d).2) := by
    rw [observe, hderive, job_apply]
    cases (Derivation.run (d.connection i).client context writes d.outside).1 <;> rfl
  have hsome : observe (some <$> Connector.derive i context writes) d =
      (.ok ((Derivation.run (d.connection i).client context writes d.outside).1.map some),
        (Connector.derive i context writes d).2) := by
    rw [observe, map_apply, hderive, job_apply]
    cases (Derivation.run (d.connection i).client context writes d.outside).1 <;> rfl
  refine ⟨_, _, hsome, hbrings.turn .carryOut (fun u _ htask _ => .carryOut htask) ?_⟩
  rw [Connector.carryOut, bind_apply, hobserve]
  rfl

/-- A release derives what there is to derive, if it gets its lock. -/
theorem Brings.release {h : Handle} (hfree : s.IsFree h.connection)
    (hbrings : s.Brings h.connection (invalidate h s.connector).2 .idle)
    (hpending : s.connector.pending = []) :
    ∃ result e task, observe (materialize h.connection) (s.connector.shut h) = (result, e) ∧
      s.Brings h.connection e task ∧ Released result task := by
  have hbegin : ∀ u : Schedule S, u.connector = (invalidate h s.connector).2 →
      u.tasks h.connection = .idle →
      (∀ j, j ≠ h.connection → u.tasks j = s.tasks j) →
      Step u (.beginRelease h.connection) (u.turn h.connection (beginRelease h.connection)) := by
    intro u hu htask _
    refine .beginRelease ⟨?_, htask⟩
    rw [size, hu]
    exact Nat.lt_of_lt_of_le hfree.1 hbrings.size_le
  have hsame : (s.connector.shut h).pending = [] := hpending
  cases hcontext : ((s.connector.shut h).connection h.connection).derivedContext? with
  | none =>
    have hclosing : beginRelease h.connection (invalidate h s.connector).2 =
        (.ok (.closing (.ok none)), s.connector.shut h) := by
      have hbefore : ((invalidate h s.connector).2.connection h.connection).derivedContext? =
          none := hcontext
      rw [beginRelease, bind_apply, connectionAt_apply]
      dsimp only
      rw [bind_apply, note_invalidated, hbefore]
      rfl
    refine ⟨_, _, _, ?_, hbrings.turn .beginRelease hbegin hclosing, .derived (.ok none)⟩
    rw [observe, materialize_of_none hcontext]
  | some context =>
    obtain ⟨answer, d, hask⟩ := exists_ask h.connection .exclusive (s.connector.shut h)
    have hasked : beginRelease h.connection (invalidate h s.connector).2 =
        (.ok ((Work.derive context
          ((s.connector.shut h).connection h.connection).journal.writes).answered answer), d) := by
      have hbefore : ((invalidate h s.connector).2.connection h.connection).derivedContext? =
          some context := hcontext
      rw [beginRelease, bind_apply, connectionAt_apply]
      dsimp only
      rw [bind_apply, note_invalidated, hbefore]
      dsimp only
      rw [bind_apply, hask]
      rfl
    obtain ⟨result, e, task, hacquire, hwaited, hawaited⟩ :=
      (hbrings.turn .beginRelease hbegin hasked).acquire hask hsame
    have hmaterialize : materialize h.connection (s.connector.shut h) = (do
        Connector.acquire h.connection .exclusive
        some <$> Connector.derive h.connection context
          ((s.connector.shut h).connection h.connection).journal.writes :
        Run S (Option Derivation.Report)) (s.connector.shut h) := by
      rw [materialize, bind_apply, connectionAt_apply]
      dsimp only
      rw [hcontext]
    rw [observe, hmaterialize, bind_apply, hacquire]
    cases hawaited with
    | granted =>
      obtain ⟨derived, e', hderive, hderived⟩ := hwaited.derive
      exact ⟨_, e', _, hderive, hderived, .derived derived⟩
    | failed f => exact ⟨_, e, _, rfl, hwaited, .derived (.error f)⟩
    | blocked ticket => exact ⟨_, e, _, rfl, hwaited, .blocked ticket _⟩

/-- The listeners of a released connection are told one after another. -/
theorem Brings.tell {kind : EventKind} {error : Option String}
    (listeners : List Listener) (hbrings : s.Brings i d (.told kind error listeners))
    (htell : ∀ l ∈ listeners, s.MayTell i l) :
    ∃ e, (listeners.forM (Connector.tell kind (d.connection i).holder error) : Run S PUnit) d =
        (.ok (), e) ∧ s.Brings i e .idle := by
  induction listeners generalizing d with
  | nil => exact ⟨d, rfl, hbrings⟩
  | cons l rest ih =>
    obtain ⟨e, done, htold, -, -, hcore⟩ := tell_apply kind (d.connection i).holder error l d
    have hnext : tellNext i kind error l rest d = (.ok (.told kind error rest), e) := by
      rw [tellNext, bind_apply, connectionAt_apply]
      dsimp only
      rw [bind_apply, htold]
      rfl
    -- a listener may clean this very connection, which keeps its holder
    have hholder : (e.connection i).holder = (d.connection i).holder := by
      change e.core.holder i = d.core.holder i
      rw [hcore]
      split
      · rfl
      · exact Core.holder_clean
    have hmay : ∀ u : Schedule S, u.connector = d → u.tasks i = .told kind error (l :: rest) →
        (∀ j, j ≠ i → u.tasks j = s.tasks j) →
        Step u (.tell i) (u.turn i (tellNext i kind error l rest)) := by
      intro u hu htask hothers
      refine .tell htask fun other hcleans => ?_
      rcases htell l List.mem_cons_self other hcleans with hself | hfree
      · exact Or.inl hself
      by_cases hself : other = i
      · exact Or.inl hself
      refine Or.inr ⟨?_, (hothers other hself).trans hfree.2⟩
      rw [size, hu]
      exact Nat.lt_of_lt_of_le hfree.1 hbrings.size_le
    obtain ⟨last, hall, hidle⟩ := ih (hbrings.turn .tell hmay hnext) fun l' hl' =>
      htell l' (List.mem_cons_of_mem l hl')
    refine ⟨last, ?_, hidle⟩
    rw [hholder] at hall
    change (Connector.tell kind (d.connection i).holder error l >>= fun _ =>
      rest.forM (Connector.tell kind (d.connection i).holder error)) d = _
    rw [bind_apply, htold]
    exact hall

/-- At the end of a release the listeners are told, whatever was derived. -/
theorem Brings.announce {derived : Except Fault (Option Derivation.Report)}
    (hbrings : s.Brings i d (.closing derived))
    (htell : ∀ l ∈ (d.connection i).listeners, s.MayTell i l) :
    s.Brings i (announce i derived d).2 .idle := by
  obtain ⟨e, hend, hcore⟩ := yields_endRelease i derived d
  have hsame : e.connection i = d.connection i := congrArg (Core.connection · i) hcore
  have hnoted : noteDerivation i derived d = (.ok (), e) := by
    rw [endRelease, bind_apply] at hend
    cases derived <;> exact Prod.ext rfl (Prod.mk.inj hend).2
  have htold := hbrings.turn .endRelease (fun u _ htask _ => .endRelease htask) hend
  obtain ⟨last, hall, hidle⟩ := htold.tell (d.connection i).listeners htell
  have hsent : sendEvent i .closed none e = (.ok (), last) := by
    rw [sendEvent, bind_apply, connectionAt_apply]
    dsimp only
    rw [hsame]
    rw [hsame] at hall
    exact hall
  have hannounced : (Connector.announce i derived d).2 = last := by
    unfold Connector.announce
    rw [bind_apply, hnoted]
    dsimp only
    rw [bind_apply, hsent]
    cases derived <;> rfl
  rw [hannounced]
  exact hidle

/-- To close a handle is a run of its connection.  The connections that its listeners clean must be
free, since each cleaning is an operation of its own. -/
theorem close_carried {h : Handle} (hfree : s.IsFree h.connection)
    (hpending : s.connector.pending = [])
    (htell : ∀ l ∈ (s.connection h.connection).listeners, s.MayTell h.connection l) :
    ∃ t, s.Carries h.connection (close h) t := by
  cases hvalid : s.connector.isValid h with
  | false =>
    refine Brings.carries _ .idle ?_ fun _ => rfl
    rw [close_of_invalid hvalid]
    exact brings_refl hfree.2
  | true =>
    have hinvalidated : s.Brings h.connection (invalidate h s.connector).2 .idle :=
      (brings_refl hfree.2).after (.invalidate h rfl) fun u hu => .invalidate h
    obtain ⟨result, e, task, hreleased, hbrings, hresult⟩ := hinvalidated.release hfree hpending
    have hclose := close_of_valid hvalid
    rw [bind_apply, hreleased] at hclose
    cases hresult with
    | derived derived =>
      dsimp only at hclose
      refine Brings.carries _ .idle ?_ fun _ => rfl
      rw [hclose, bind_pure_snd]
      have hsteady := (isSteady_materialize h.connection).observe (s.connector.shut h)
      rw [hreleased] at hsteady
      -- to derive changes no listeners, so those that are told are known from the start
      have hlisteners : (e.connection h.connection).listeners =
          (s.connection h.connection).listeners :=
        (hsteady.front h.connection).listeners.trans
          (connection_shut Connection.listeners (fun _ => rfl) h.connection)
      exact hbrings.announce fun l hl => htell l (hlisteners ▸ hl)
    | blocked ticket work =>
      dsimp only at hclose
      refine Brings.carries (close h) (.waiting ticket work) ?_ ?_
      · rw [hclose]
        exact hbrings
      · rw [hclose]
        exact fun hreturns => absurd rfl hreturns

end Schedule

end GraphCommit
