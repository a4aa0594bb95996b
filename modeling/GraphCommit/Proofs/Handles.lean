import GraphCommit.Proofs.Cleanup
import GraphCommit.Proofs.Derivation.Pass
import GraphCommit.Proofs.Derivation.Trigger

/-!
# Handles

A handle works while the flag of its token is up.  At any time of any run this is so of at most one
token of a connection, and it is the one that is handed out: a token is given only when none is
current, and the flag of the current one goes down before it is forgotten (`Tokens.single`).  A
token that was made invalid, be it by a close, by hand or by a cleanup, never becomes valid again,
and nothing at all happens when a handle with that token is used (`handles_hold`).

Closing a valid handle tells every listener of the connection once that it was closed, in the order
of their registration and whatever came of the derivation before.  A close can only fail to return
if it has to wait, without a time limit, for a lock that another connection asked for.
-/

namespace GraphCommit

open Effect

/-! ## The time limit of the lock -/

namespace LockManager

variable {m : LockManager} {h : Holder} {mode : Lock.Mode}

theorem timeout_proceed (m : LockManager) (h : Holder) (mode : Lock.Mode) (entered : Bool) :
    (m.proceed h mode entered).2.timeout = m.timeout := by
  unfold proceed
  split <;> rfl

theorem timeout_lock (m : LockManager) (h : Holder) (mode : Lock.Mode) :
    (m.lock h mode).2.timeout = m.timeout := by
  cases mode with
  | shared =>
    unfold lock lockToRead
    dsimp only
    split <;> rw [timeout_proceed]
  | exclusive =>
    unfold lock lockToWrite
    dsimp only
    split
    · rfl
    · rw [timeout_proceed]
    · rw [timeout_proceed]

theorem timeout_unlockRead (m : LockManager) (h : Holder) :
    (m.unlockRead h).timeout = m.timeout := by
  unfold unlockRead
  split <;> rfl

theorem timeout_expire (m : LockManager) (call : Lock.Call) :
    (m.expire call).timeout = m.timeout := by
  unfold expire
  dsimp only
  split
  · rfl
  · split <;> rfl

/-- Where nobody else has asked for the lock, nobody has to wait for it. -/
theorem lock_ne_waiting_of_alone (halone : ∀ r ∈ m.requests, r.holder = h) (ticket : Nat) :
    (m.lock h .exclusive).1 ≠ .waiting ticket := by
  have hgranted : ∀ (n : LockManager) (entered : Bool), n.requests ≠ [] →
      (∀ r ∈ n.requests, r.holder = h) → (n.proceed h .exclusive entered).1 = .granted := by
    intro n entered hsome hn
    obtain ⟨r, rest, hrequests⟩ := List.exists_cons_of_ne_nil hsome
    have hfree : n.requests.free h .exclusive = true := by
      rw [hrequests] at hn ⊢
      simpa [Lock.Queue.free, Lock.Queue.freeToWrite] using hn r List.mem_cons_self
    rw [proceed, if_pos hfree]
  unfold lock lockToWrite
  dsimp only
  split
  · simp
  · next hmode =>
    rw [hgranted _ _ ?_ halone]
    · simp
    · intro hnone
      simp [hnone, Lock.Queue.modeOf?] at hmode
  · rw [hgranted]
    · simp
    · simp [Lock.Queue.enter]
    · intro r hr
      rcases List.mem_append.mp hr with hr | hr
      · exact halone r hr
      · rw [List.mem_singleton.mp hr]

end LockManager

/-- Who heard what, if a notice is about that. -/
def Notice.heard? : Notice → Option (Nat × EventKind × Holder × Option String)
  | heard listener kind holder error => some (listener, kind, holder, error)
  | cleaned _ _ => none

namespace Connector

variable {S α β : Type} {c d e : Connector S} {i : Nat} {h : Handle}

/-! ## Operations that leave handles alone -/

/-- What handles and listeners of a connection are. -/
structure SameFront (x y : Connection) : Prop where
  holder : y.holder = x.holder
  listeners : y.listeners = x.listeners
  tokens : y.tokens = x.tokens

/-- Nothing is told to anybody, and all handles and listeners are as they were. -/
structure Steady (c d : Connector S) : Prop where
  notices : d.notices = c.notices
  timeout : d.locks.timeout = c.locks.timeout
  front : ∀ i, SameFront (c.connection i) (d.connection i)

theorem Steady.refl (c : Connector S) : Steady c c := ⟨rfl, rfl, fun _ => ⟨rfl, rfl, rfl⟩⟩

theorem Steady.trans (hfirst : Steady c d) (hsecond : Steady d e) : Steady c e where
  notices := hsecond.notices.trans hfirst.notices
  timeout := hsecond.timeout.trans hfirst.timeout
  front := fun i => ⟨(hsecond.front i).holder.trans (hfirst.front i).holder,
    (hsecond.front i).listeners.trans (hfirst.front i).listeners,
    (hsecond.front i).tokens.trans (hfirst.front i).tokens⟩

theorem steady_of_same (hnotices : d.notices = c.notices)
    (htimeout : d.locks.timeout = c.locks.timeout) (hconnections : d.connections = c.connections) :
    Steady c d where
  notices := hnotices
  timeout := htimeout
  front := fun i => by
    rw [connection, connection, hconnections]
    exact ⟨rfl, rfl, rfl⟩

/-- An operation that leaves handles and listeners alone. -/
def IsSteady (r : Run S α) : Prop := ∀ c, Steady c (r c).2

namespace IsSteady

theorem bind {r : Run S α} {f : α → Run S β} (hr : IsSteady r) (hf : ∀ a, IsSteady (f a)) :
    IsSteady (r >>= f) := by
  intro c
  have hfirst := hr c
  rw [bind_apply]
  rcases hrun : r c with ⟨e | a, d⟩ <;> rw [hrun] at hfirst
  · exact hfirst
  · exact hfirst.trans (hf a d)

theorem map {r : Run S α} (hr : IsSteady r) (f : α → β) : IsSteady (f <$> r) := by
  intro c
  rw [map_snd]
  exact hr c

theorem observe {r : Run S α} (hr : IsSteady r) : IsSteady (observe r) := by
  intro c
  rw [observe_snd]
  exact hr c

end IsSteady

theorem isSteady_of_same {r : Run S α} (hsame : ∀ c, (r c).2.notices = c.notices ∧
    (r c).2.locks.timeout = c.locks.timeout ∧ (r c).2.connections = c.connections) : IsSteady r :=
  fun c => steady_of_same (hsame c).1 (hsame c).2.1 (hsame c).2.2

theorem isSteady_pure (a : α) : IsSteady (pure a : Run S α) := fun c => .refl c

theorem isSteady_throw (halt : Halt) : IsSteady (throw halt : Run S α) := fun c => .refl c

theorem isSteady_get : IsSteady (get : Run S (Connector S)) := fun c => .refl c

theorem isSteady_connectionAt (i : Nat) : IsSteady (connectionAt i : Run S Connection) :=
  fun c => .refl c

theorem isSteady_note (level : Level) (target message : String) :
    IsSteady (note level target message : Run S Unit) :=
  isSteady_of_same fun _ => ⟨rfl, rfl, rfl⟩

theorem isSteady_job (j : Job S α) : IsSteady (job j : Run S α) :=
  isSteady_of_same fun _ => ⟨rfl, rfl, rfl⟩

theorem isSteady_append (i : Nat) (w : Write) : IsSteady (update i (·.append w) : Run S Unit) := by
  intro c
  have hkeeps : ∀ {γ : Type} (g : Connection → γ), (∀ x : Connection, g (x.append w) = g x) →
      ∀ j, g ((update i (·.append w) c).2.connection j) = g (c.connection j) :=
    fun g hg j => Core.connection_update_keeps (c := c.core) g hg
  exact ⟨rfl, rfl, fun j => ⟨hkeeps Connection.holder (fun _ => rfl) j,
    hkeeps Connection.listeners (fun _ => rfl) j, hkeeps Connection.tokens (fun _ => rfl) j⟩⟩

theorem isSteady_ask (i : Nat) (mode : Lock.Mode) : IsSteady (ask i mode : Run S Lock.Answer) := by
  intro c
  have hasked : Steady c
      { c with locks := (c.locks.lock (c.connection i).holder mode).2 } :=
    steady_of_same rfl (c.locks.timeout_lock _ mode) rfl
  unfold ask
  rw [bind_apply, get_apply]
  dsimp only
  rw [bind_apply, set_apply]
  dsimp only
  split
  · exact hasked.trans (steady_of_same rfl rfl rfl)
  · exact hasked

theorem isSteady_unlockRead (i : Nat) : IsSteady (unlockRead i : Run S Unit) :=
  isSteady_of_same fun c => ⟨rfl, c.locks.timeout_unlockRead _, rfl⟩

theorem isSteady_expire (call : Lock.Call) : IsSteady (expire call : Run S Unit) := by
  intro c
  have hexpired : Steady c { c with locks := c.locks.expire call } :=
    steady_of_same rfl (c.locks.timeout_expire call) rfl
  unfold expire
  rw [bind_apply, get_apply]
  dsimp only
  rw [bind_apply, set_apply]
  dsimp only
  split
  · exact hexpired.trans (steady_of_same rfl rfl rfl)
  · exact hexpired

theorem isSteady_expireOldest : IsSteady (expireOldest : Run S Unit) := by
  refine isSteady_get.bind fun c => ?_
  split
  · exact isSteady_pure ()
  · exact isSteady_expire _

section

variable [Backend S]

theorem isSteady_complete (i : Nat) (a : Access) : IsSteady (complete i a : Run S Reply) := by
  cases a with
  | write w =>
    refine IsSteady.bind ?_ fun _ => isSteady_pure _
    refine (isSteady_connectionAt i).bind fun x => (isSteady_job _).bind fun _ => ?_
    exact (isSteady_note _ _ _).bind fun _ => isSteady_append i w
  | select text =>
    refine ((isSteady_connectionAt i).bind fun x => (isSteady_job _).observe).bind fun result => ?_
    refine (isSteady_unlockRead i).bind fun _ => ?_
    cases result with
    | ok rows => exact isSteady_pure _
    | error f => exact isSteady_throw _

theorem isSteady_resume (p : Pending) : IsSteady (resume p : Run S Reply) := by
  refine isSteady_get.bind fun c => ?_
  split
  · exact isSteady_complete _ _
  · exact isSteady_throw _

theorem steady_settleOne (c : Connector S) : Steady c (settleOne c) := by
  unfold settleOne
  split
  · exact .refl c
  · next p _ =>
    dsimp only
    have hpending : Steady c
        { c with pending := c.pending.filter (fun q => q.ticket != p.ticket) } :=
      steady_of_same rfl rfl rfl
    have hresumed := hpending.trans ((isSteady_resume p).observe _)
    split
    · next result d hrun =>
      rw [hrun] at hresumed
      exact hresumed.trans (steady_of_same rfl rfl rfl)
    · next halt d hrun =>
      rw [hrun] at hresumed
      exact hresumed

theorem steady_settle (c : Connector S) : Steady c (settle c) := by
  unfold settle
  generalize c.pending.length = n
  induction n generalizing c with
  | zero => exact .refl c
  | succ n ih => exact (steady_settleOne c).trans (ih (settleOne c))

theorem isSteady_elapse (ticket n : Nat) : IsSteady (elapse ticket n : Run S Unit) := by
  induction n with
  | zero => exact isSteady_pure ()
  | succ n ih =>
    have hsettle : IsSteady (modify settle : Run S PUnit) := fun c => steady_settle c
    refine hsettle.bind fun _ => isSteady_get.bind fun c => ?_
    split
    · split
      · exact isSteady_throw _
      · exact isSteady_expireOldest.bind fun _ => ih
    · exact isSteady_pure _

theorem isSteady_await (answer : Lock.Answer) : IsSteady (await answer : Run S Unit) := by
  cases answer with
  | granted => exact isSteady_pure ()
  | refused => exact isSteady_throw _
  | waiting ticket =>
    refine isSteady_get.bind fun c => (isSteady_elapse ticket _).bind fun _ => ?_
    refine isSteady_get.bind fun d => ?_
    split
    · exact isSteady_pure ()
    · exact isSteady_throw _

theorem isSteady_acquire (i : Nat) (mode : Lock.Mode) : IsSteady (acquire i mode : Run S Unit) :=
  (isSteady_ask i mode).bind fun answer => isSteady_await answer

theorem isSteady_access (i : Nat) (a : Access) : IsSteady (access i a : Run S Reply) :=
  (isSteady_acquire i a.mode).bind fun _ => isSteady_complete i a

theorem isSteady_materialize (i : Nat) :
    IsSteady (materialize i : Run S (Option Derivation.Report)) := by
  refine (isSteady_connectionAt i).bind fun x => ?_
  split
  · exact isSteady_pure _
  · refine (isSteady_acquire i .exclusive).bind fun _ => IsSteady.map ?_ _
    exact (isSteady_connectionAt i).bind fun y => isSteady_job _

theorem isSteady_spawn (thread : String) (i : Nat) (a : Access) :
    IsSteady (spawn thread i a : Run S Unit) := by
  refine (isSteady_ask i a.mode).bind fun answer => ?_
  split
  · exact isSteady_of_same fun _ => ⟨rfl, rfl, rfl⟩
  · refine ((isSteady_await _).bind fun _ => isSteady_complete i a).observe.bind fun result => ?_
    exact isSteady_of_same fun _ => ⟨rfl, rfl, rfl⟩

omit [Backend S] in
theorem isSteady_setEnded (g : Connector S → List (String × Except Fault Reply))
    {f : Connector S → Run S α} (hf : ∀ c, IsSteady (f c)) :
    IsSteady (do
      let c ← get
      set { c with ended := g c }
      f c : Run S α) := by
  intro c
  have hset : Steady c { c with ended := g c } := steady_of_same rfl rfl rfl
  exact hset.trans (hf c { c with ended := g c })

theorem isSteady_join (thread : String) : IsSteady (join thread : Run S Reply) := by
  have hsettle : IsSteady (modify settle : Run S PUnit) := fun c => steady_settle c
  refine isSteady_get.bind fun c => ?_
  split
  · refine isSteady_get.bind fun d => (isSteady_elapse _ _).bind fun _ => hsettle.bind fun _ => ?_
    refine isSteady_setEnded _ fun e => ?_
    split
    · exact isSteady_pure _
    · exact isSteady_throw _
    · exact isSteady_throw _
  · refine isSteady_setEnded _ fun e => ?_
    split
    · exact isSteady_pure _
    · exact isSteady_throw _
    · exact isSteady_throw _

/-! ## Waiting for the lock -/

/-- An operation that returns where calls for the lock have a time limit. -/
def Returns (r : Run S α) : Prop := ∀ c, c.locks.timeout ≠ none → (r c).1 ≠ .error .blocked

omit [Backend S] in
theorem Returns.bind {r : Run S α} {f : α → Run S β} (hr : Returns r) (hsteady : IsSteady r)
    (hf : ∀ a, Returns (f a)) : Returns (r >>= f) := by
  intro c hlimit
  have hfirst := hr c hlimit
  have htimeout := (hsteady c).timeout
  rw [bind_apply]
  rcases hrun : r c with ⟨halt | a, d⟩ <;> rw [hrun] at hfirst htimeout
  · simpa using hfirst
  · exact hf a d (htimeout ▸ hlimit)

omit [Backend S] in
theorem returns_of_ok {r : Run S α} (hok : ∀ c, ∃ a, (r c).1 = .ok a) : Returns r := by
  intro c _
  obtain ⟨a, ha⟩ := hok c
  simp [ha]

omit [Backend S] in
theorem returns_fail (f : Fault) : Returns (fail f : Run S α) := by
  intro c _ hblocked
  have hhalt := Except.error.inj hblocked
  contradiction

omit [Backend S] in
theorem returns_expire (call : Lock.Call) : Returns (expire call : Run S Unit) := by
  refine returns_of_ok fun c => ?_
  unfold expire
  rw [bind_apply, get_apply]
  dsimp only
  rw [bind_apply, set_apply]
  dsimp only
  split <;> exact ⟨_, rfl⟩

theorem returns_elapse (ticket n : Nat) : Returns (elapse ticket n : Run S Unit) := by
  induction n with
  | zero => exact returns_of_ok fun _ => ⟨_, rfl⟩
  | succ n ih =>
    have hsettle : IsSteady (modify settle : Run S PUnit) := fun c => steady_settle c
    refine Returns.bind (returns_of_ok fun _ => ⟨_, rfl⟩) hsettle fun _ c hlimit => ?_
    rw [bind_apply, get_apply]
    dsimp only
    split
    · have htimeout : c.locks.timeout.isNone = false := Option.isNone_eq_false_iff.mpr
        (Option.isSome_iff_ne_none.mpr hlimit)
      rw [htimeout]
      have holdest : Returns (expireOldest : Run S Unit) := by
        refine Returns.bind (returns_of_ok fun _ => ⟨_, rfl⟩) isSteady_get fun d => ?_
        split
        · exact returns_of_ok fun _ => ⟨_, rfl⟩
        · exact returns_expire _
      exact holdest.bind isSteady_expireOldest (fun _ => ih) c hlimit
    · simp

theorem returns_await (answer : Lock.Answer) : Returns (await answer : Run S Unit) := by
  cases answer with
  | granted => exact returns_of_ok fun _ => ⟨_, rfl⟩
  | refused => exact returns_fail _
  | waiting ticket =>
    refine Returns.bind (returns_of_ok fun _ => ⟨_, rfl⟩) isSteady_get fun c => ?_
    refine (returns_elapse ticket _).bind (isSteady_elapse ticket _) fun _ => ?_
    refine Returns.bind (returns_of_ok fun _ => ⟨_, rfl⟩) isSteady_get fun d => ?_
    cases d.outcome ticket with
    | ok _ => exact returns_of_ok fun _ => ⟨_, rfl⟩
    | error f => exact returns_fail f

/-- A call for the write lock returns if there is a time limit or nobody else has asked for the
lock. -/
theorem acquire_returns (i : Nat) (c : Connector S) (hreturns : c.locks.timeout ≠ none ∨
    ∀ r ∈ c.locks.requests, r.holder = (c.connection i).holder) :
    (acquire i .exclusive c).1 ≠ .error .blocked := by
  obtain ⟨d, hasked, hcore⟩ := yields_ask i .exclusive c
  have htimeout : d.locks.timeout = c.locks.timeout := by
    have hlocks : d.locks = (c.locks.lock (c.connection i).holder .exclusive).2 :=
      congrArg Core.locks hcore
    rw [hlocks, LockManager.timeout_lock]
  rw [acquire, bind_apply, hasked]
  dsimp only
  rcases hreturns with hlimit | halone
  · exact returns_await _ d (htimeout ▸ hlimit)
  · have hanswer := LockManager.lock_ne_waiting_of_alone halone
    change (await (c.locks.lock (c.connection i).holder .exclusive).1 d).1 ≠ _
    cases hlock : (c.locks.lock (c.connection i).holder .exclusive).1 with
    | granted => simp [await]
    | refused =>
      intro hblocked
      have hhalt := Except.error.inj hblocked
      contradiction
    | waiting ticket => exact absurd hlock (hanswer ticket)

/-- So does a release. -/
theorem materialize_returns (i : Nat) (c : Connector S) (hreturns : c.locks.timeout ≠ none ∨
    ∀ r ∈ c.locks.requests, r.holder = (c.connection i).holder) :
    ∃ derived : Except Fault (Option Derivation.Report),
      (materialize i c).1 = derived.mapError .fault := by
  have hends : (materialize i c).1 ≠ .error .blocked := by
    rw [materialize, bind_apply, connectionAt_apply]
    dsimp only
    cases (c.connection i).derivedContext? with
    | none => simp
    | some context =>
      have hacquired := acquire_returns i c hreturns
      dsimp only
      rw [bind_apply]
      rcases hrun : acquire i .exclusive c with ⟨halt | _, d⟩ <;> rw [hrun] at hacquired
      · simpa using hacquired
      · simp only [map_apply, derive, bind_apply, connectionAt_apply, job_apply]
        rcases (Derivation.run (d.connection i).client context (c.connection i).journal.writes
          d.outside).1 with f | report
        · simp [Except.mapError]
        · simp [Except.mapError]
  rcases hrun : (materialize i c).1 with (f | _) | report
  · exact ⟨.error f, rfl⟩
  · exact absurd hrun hends
  · exact ⟨.ok report, rfl⟩

/-! ## Telling the listeners -/

theorem notices_cleanup (i : Nat) (c : Connector S) : (cleanup i c).2.notices = c.notices := by
  simp only [cleanup, bind_apply, connectionAt_apply, note_apply, update_apply,
    observe_job_apply, unlockAll_apply, ClientId.act_apply]
  cases (Backend.act (c.outside.note .debug Record.connections
      ("cleaning " ++ (c.connection i).holder.text)).stores (c.connection i).client
      .invalidate).result <;> rfl

/-- A listener is told one thing, and may clean a connection. -/
theorem tell_apply (kind : EventKind) (holder : Holder) (error : Option String) (l : Listener)
    (c : Connector S) : ∃ d done, tell kind holder error l c = (.ok (), d) ∧
      d.notices = c.notices ++ .heard l.id kind holder error :: done ∧
      done.filterMap Notice.heard? = [] ∧
      d.core = match l.cleans with
        | none => c.core
        | some other => c.core.clean other := by
  rw [tell, bind_apply, hear_apply]
  dsimp only
  cases l.cleans with
  | none => exact ⟨_, [], rfl, rfl, rfl, rfl⟩
  | some other =>
    generalize hheard : ({ c with
      notices := c.notices ++ [.heard l.id kind holder error] } : Connector S) = told
    obtain ⟨result, d, hd, hcore⟩ := (cleanup_ends other told).observe
    have hnotices : d.notices = told.notices := by
      have hcleaned : (cleanup other told).2 = d := by
        rw [← observe_snd, hd]
      rw [← hcleaned, notices_cleanup]
    dsimp only
    rw [bind_apply, hd]
    refine ⟨_, [.cleaned l.id result], rfl, ?_, rfl, ?_⟩
    · change d.notices ++ [.cleaned l.id result] = _
      rw [hnotices, ← hheard]
      simp
    · change d.core = _
      rw [hcore, ← hheard]
      rfl

/-- Every token that is invalid stays so, and tokens are numbered on. -/
def Ages (c d : Connector S) : Prop := ∀ i, (c.connection i).NumbersOn (d.connection i)

omit [Backend S] in
theorem Ages.refl (c : Connector S) : Ages c c := fun _ => .refl _

omit [Backend S] in
theorem Ages.trans (hfirst : Ages c d) (hsecond : Ages d e) : Ages c e :=
  fun i => (hfirst i).trans (hsecond i)

omit [Backend S] in
theorem Steady.ages (hsteady : Steady c d) : Ages c d := by
  intro i
  obtain ⟨-, -, htokens⟩ := hsteady.front i
  constructor
  · exact Nat.le_of_eq (congrArg Tokens.issued htokens.symm)
  · intro t _ hvalid
    rw [Connection.valid, htokens]
    exact hvalid

/-- What a piece does to the connections, new ones included, is of this kind. -/
theorem ages_of_does {p : Piece} (hdoes : p.Does c.core d.core) : Ages c d := by
  intro i
  by_cases hi : i < c.core.size
  · exact hdoes.numbersOn hi
  · have hnone : c.connection i = default :=
      Core.connection_of_ge (c := c.core) (Nat.le_of_not_lt hi)
    have hvalid : (d.connection i).valid = none := (hdoes.of_ge (Nat.le_of_not_lt hi)).2
    rw [hnone]
    exact ⟨Nat.zero_le _, fun t _ _ => by simp [hvalid]⟩

omit [Backend S] in
theorem ages_of_core (hcore : d.core = c.core) : Ages c d := by
  intro i
  have hsame : d.connection i = c.connection i := congrArg (Core.connection · i) hcore
  exact hsame ▸ .refl _

theorem ages_clean {i : Nat} (hcore : d.core = c.core.clean i) : Ages c d :=
  ages_of_does (p := .cleanup i) (hcore ▸ .cleaned rfl)

/-- All listeners of a list are told, one after the other. -/
theorem tellAll_apply (kind : EventKind) (holder : Holder) (error : Option String)
    (listeners : List Listener) (c : Connector S) :
    ∃ d done, (listeners.forM (tell kind holder error) : Run S PUnit) c = (.ok (), d) ∧
      d.notices = c.notices ++ done ∧
      done.filterMap Notice.heard? = listeners.map (fun l => (l.id, kind, holder, error)) ∧
      Ages c d := by
  induction listeners generalizing c with
  | nil => exact ⟨c, [], rfl, by simp, rfl, .refl c⟩
  | cons l rest ih =>
    obtain ⟨d, first, htold, hfirst, hothers, hcore⟩ := tell_apply kind holder error l c
    obtain ⟨e, later, hall, hlater, hheard, hages⟩ := ih d
    refine ⟨e, .heard l.id kind holder error :: first ++ later, ?_, ?_, ?_, ?_⟩
    · change (tell kind holder error l >>= fun _ => rest.forM (tell kind holder error)) c = _
      rw [bind_apply, htold]
      exact hall
    · rw [hlater, hfirst, List.append_assoc]
    · rw [List.cons_append, List.filterMap_cons, List.filterMap_append, hothers, hheard]
      rfl
    · refine Ages.trans ?_ hages
      cases hcleans : l.cleans with
      | none =>
        rw [hcleans] at hcore
        exact ages_of_core hcore
      | some other =>
        rw [hcleans] at hcore
        exact ages_clean hcore

/-- At the end of a release all listeners are told, whatever was derived. -/
theorem announce_tells (i : Nat) (derived : Except Fault (Option Derivation.Report))
    (c : Connector S) :
    ∃ d done, announce i derived c = (derived.mapError .fault, d) ∧
      d.notices = c.notices ++ done ∧
      done.filterMap Notice.heard? = (c.connection i).listeners.map
        (fun l => (l.id, .closed, (c.connection i).holder, none)) ∧
      Ages c d := by
  have hnoted : ∃ d, noteDerivation i derived c = (.ok (), d) ∧ Steady c d := by
    cases derived with
    | ok report => exact ⟨c, rfl, .refl c⟩
    | error f => exact ⟨_, rfl, steady_of_same rfl rfl rfl⟩
  obtain ⟨d, hnoted, hsteady⟩ := hnoted
  obtain ⟨e, done, htold, hnotices, hheard, hages⟩ := tellAll_apply .closed
    (d.connection i).holder none (d.connection i).listeners d
  have hsent : sendEvent i .closed none d = (.ok (), e) := by
    rw [sendEvent, bind_apply, connectionAt_apply]
    exact htold
  refine ⟨e, done, ?_, ?_, ?_, hsteady.ages.trans hages⟩
  · unfold announce
    rw [bind_apply, hnoted]
    dsimp only
    rw [bind_apply, hsent]
    cases derived <;> rfl
  · rw [hnotices, hsteady.notices]
  · rw [hheard, (hsteady.front i).listeners, (hsteady.front i).holder]

/-! ## Using handles -/

omit [Backend S] in
theorem through_of_valid (hvalid : c.isValid h = true) : through h c = (.ok h.connection, c) := by
  simp only [through, bind_apply, get_apply, hvalid]
  rfl

omit [Backend S] in
theorem through_of_invalid (hinvalid : c.isValid h = false) :
    through h c = (.error (.fault .handleInvalidated), c) := by
  simp only [through, bind_apply, get_apply, hinvalid]
  rfl

omit [Backend S] in
theorem isSteady_through (h : Handle) : IsSteady (through h : Run S Nat) := by
  intro c
  cases hvalid : c.isValid h with
  | true => rw [through_of_valid hvalid]; exact .refl c
  | false => rw [through_of_invalid hvalid]; exact .refl c

/-- What is done with handles, and beside it pieces of whatever else is done at the same time. -/
inductive Use where
  | piece (p : Piece)
  | access (h : Handle) (a : Access)
  /-- The same by another thread, and waiting for a thread. -/
  | spawn (thread : String) (h : Handle) (a : Access)
  | join (thread : String)
  | close (h : Handle)

def Use.run : Use → Run S Unit
  | piece p => do let _ ← p.run
  | access h a => do let _ ← accessThrough h a
  | spawn thread h a => spawnThrough thread h a
  | join thread => do let _ ← Connector.join thread
  | close h => Connector.close h

/-- The connector after some uses. -/
def afterUses (c : Connector S) (us : List Use) : Connector S := us.foldl (fun c u => (u.run c).2) c

theorem afterUses_append (c : Connector S) (us vs : List Use) :
    c.afterUses (us ++ vs) = (c.afterUses us).afterUses vs := List.foldl_append

/-- A closed handle is no more than a handle that was made invalid. -/
theorem ages_shut (h : Handle) (c : Connector S) : Ages c (c.shut h) := by
  have hdoes : (Piece.invalidate h).Does c.core (c.shut h).core :=
    .kept ⟨rfl, rfl⟩ (fun x => x.participant_invalidate h.token)
      fun x => x.numbersOn_invalidate h.token
  exact ages_of_does hdoes

/-- What is left of a close, once the handle was made invalid. -/
theorem ages_close (hvalid : c.isValid h = true) : Ages (c.shut h) (close h c).2 := by
  rw [close_of_valid hvalid, bind_apply]
  have hsteady := (isSteady_materialize h.connection).observe (c.shut h)
  rcases hrun : observe (materialize h.connection) (c.shut h) with ⟨halt | derived, d⟩ <;>
    rw [hrun] at hsteady
  · exact hsteady.ages
  · obtain ⟨e, done, htold, -, -, hages⟩ := announce_tells h.connection derived d
    have hlast : ((do let _ ← announce h.connection derived : Run S Unit) d).2 = e := by
      rw [bind_pure_snd, htold]
    dsimp only
    rw [hlast]
    exact hsteady.ages.trans hages

theorem ages_use (u : Use) (c : Connector S) : Ages c (u.run c).2 := by
  cases u with
  | piece p =>
    have hafter : ((Use.piece p).run c).2 = c.after p := bind_pure_snd _ _ _
    rw [hafter]
    exact ages_of_does (Piece.does_after p c)
  | access h a =>
    have hsteady : IsSteady (accessThrough h a : Run S Reply) :=
      (isSteady_through h).bind fun i => isSteady_access i a
    have hafter : ((Use.access h a).run c).2 = (accessThrough h a c).2 := bind_pure_snd _ _ _
    rw [hafter]
    exact (hsteady c).ages
  | spawn thread h a =>
    have hsteady : IsSteady (spawnThrough thread h a : Run S Unit) := by
      refine (isSteady_through h).observe.bind fun result => ?_
      cases result with
      | ok i => exact isSteady_spawn thread i a
      | error f => exact isSteady_of_same fun _ => ⟨rfl, rfl, rfl⟩
    exact (hsteady c).ages
  | join thread =>
    have hafter : ((Use.join thread).run c).2 = (Connector.join thread c).2 := bind_pure_snd _ _ _
    rw [hafter]
    exact (isSteady_join thread c).ages
  | close h =>
    cases hvalid : c.isValid h with
    | true => exact (ages_shut h c).trans (ages_close hvalid)
    | false =>
      have hsame : Connector.close h c = (.error (.fault .handleInvalidated), c) := by
        rw [Connector.close, bind_apply, through_of_invalid hvalid]
      change Ages c (Connector.close h c).2
      rw [hsame]
      exact .refl c

theorem ages_uses (us : List Use) (c : Connector S) : Ages c (c.afterUses us) := by
  induction us generalizing c with
  | nil => exact .refl c
  | cons u rest ih => exact (ages_use u c).trans (ih (u.run c).2)

omit [Backend S] in
theorem isValid_eq_false_iff :
    c.isValid h = false ↔ (c.connection h.connection).valid ≠ some h.token := by
  rw [isValid, ← Bool.not_eq_true, Tokens.isValid_iff]
  rfl

omit [Backend S] in
theorem isValid_iff : c.isValid h = true ↔ (c.connection h.connection).valid = some h.token :=
  Tokens.isValid_iff

omit [Backend S] in
/-- A token that was handed out and is not valid never becomes valid again. -/
theorem Ages.invalid (hages : Ages c d) (hissued : h.token < (c.connection h.connection).issued)
    (hinvalid : c.isValid h = false) : d.isValid h = false :=
  isValid_eq_false_iff.mpr
    ((hages h.connection).retired h.token hissued (isValid_eq_false_iff.mp hinvalid))

omit [Backend S] in
theorem invalid_of_core {k : Core S} (hcore : d.core = k)
    (hinvalid : h.connection < k.size → (k.connection h.connection).valid ≠ some h.token) :
    d.isValid h = false := by
  rw [isValid_eq_false_iff]
  change (d.core.connection h.connection).valid ≠ _
  rw [hcore]
  by_cases hi : h.connection < k.size
  · exact hinvalid hi
  · have hnone : (default : Connection).valid = none := rfl
    rw [Core.connection_of_ge (Nat.le_of_not_lt hi), hnone]
    simp

omit [Backend S] in
theorem isValid_invalidated (hcore : d.core = c.core.update h.connection (·.invalidate h.token)) :
    d.isValid h = false := by
  refine invalid_of_core hcore fun hi => ?_
  rw [Core.size_update] at hi
  rw [Core.connection_update_self hi]
  exact fun hvalid => (Tokens.valid_of_revoke hvalid).1 rfl

theorem isValid_cleaned (hcore : d.core = c.core.clean h.connection) : d.isValid h = false := by
  refine invalid_of_core hcore fun hi => ?_
  rw [Core.size_clean] at hi
  rw [Core.connection_clean_self hi]
  exact nofun

omit [Backend S] in
/-- A handle is handed out with the token that is valid, or with a new one. -/
theorem getHandle_valid (hi : i < c.connections.length) :
    ∃ h d, getHandle i c = (.ok h, d) ∧ h.connection = i ∧ d.isValid h = true ∧
      ∀ h', h'.connection = i → c.isValid h' = true → h' = h := by
  have hhandle : (getHandle i c).1 = .ok ⟨i, (c.connection i).token.1⟩ := by
    unfold getHandle
    rw [bind_apply, connectionAt_apply]
    dsimp only
    rcases (c.connection i).token with ⟨token, isNew, x⟩
    cases isNew <;> rfl
  have hcore := getHandle_core i c
  refine ⟨_, (getHandle i c).2, Prod.ext hhandle rfl, rfl, ?_, fun h' hconnection hvalid => ?_⟩
  · rw [isValid_iff]
    change ((getHandle i c).2.core.connection i).valid = _
    rw [hcore, Core.connection_update_self hi]
    exact Connection.valid_token _
  · subst hconnection
    have htoken : (c.connection h'.connection).token.1 = h'.token := by
      rw [Connection.token, Tokens.give_of_valid (isValid_iff.mp hvalid)]
    rw [htoken]

/-! ## The whole statement -/

/-- Once a handle was made invalid, this is derived on the release of its connection. -/
def Releases (c : Connector S) (h : Handle) (derived : Except Fault (Option Derivation.Report))
    (d : Connector S) : Prop :=
  materialize h.connection (c.shut h) = (derived.mapError .fault, d)

/-- How a valid handle is closed. -/
structure TellsOnce (c : Connector S) (h : Handle) : Prop where
  /-- Whatever was derived, or if the derivation failed, then each listener hears once that the
  connection was closed, in the order of registration, and nobody hears anything before. -/
  tells : ∀ derived d, c.Releases h derived d →
    d.notices = c.notices ∧ ∃ e done,
      close h c = ((derived.map fun _ => ()).mapError .fault, e) ∧
      e.notices = c.notices ++ done ∧
      done.filterMap Notice.heard? = (c.connection h.connection).listeners.map
        (fun l => (l.id, .closed, (c.connection h.connection).holder, none))
  /-- The derivation ends if calls for the lock have a time limit, or nobody else has asked for the
  lock. -/
  returns : c.locks.timeout ≠ none ∨
      (∀ r ∈ c.locks.requests, r.holder = (c.connection h.connection).holder) →
    ∃ derived d, c.Releases h derived d

/-- What holds of the handles of a connector at any time. -/
structure HandlesHold (c : Connector S) : Prop where
  /-- No two handles of a connection are valid. -/
  alone : ∀ h h', c.isValid h = true → c.isValid h' = true → h.connection = h'.connection → h = h'
  /-- The valid one is handed out.  If there is none, a new one is, and is valid then. -/
  given : ∀ i, i < c.connections.length →
    ∃ h d, getHandle i c = (.ok h, d) ∧ h.connection = i ∧ d.isValid h = true ∧
      ∀ h', h'.connection = i → c.isValid h' = true → h' = h
  /-- A handle is invalid once it was closed, whatever came of that, or was made invalid, or its
  connection was cleaned, be it by a listener. -/
  closed : ∀ h, (close h c).2.isValid h = false
  invalidated : ∀ h, (invalidate h c).2.isValid h = false
  cleaned : ∀ h, (cleanup h.connection c).2.isValid h = false
  cleanedByListener : ∀ h kind holder error l, l.cleans = some h.connection →
    (tell kind holder error l c).2.isValid h = false
  /-- A handle that has become invalid stays so, whatever is done. -/
  expires : ∀ h us vs, c.isValid h = true → (c.afterUses us).isValid h = false →
    (c.afterUses (us ++ vs)).isValid h = false
  /-- An invalid handle cannot be used, and to try so changes nothing. -/
  refused : ∀ h, c.isValid h = false →
    (∀ a, accessThrough h a c = (.error (.fault .handleInvalidated), c)) ∧
    close h c = (.error (.fault .handleInvalidated), c) ∧
    ∀ thread a, spawnThrough thread h a c =
      (.ok (), { c with ended := c.ended ++ [(thread, .error .handleInvalidated)] })
  /-- A valid one is closed as it should be. -/
  closes : ∀ h, c.isValid h = true → TellsOnce c h

theorem close_of_invalid (hinvalid : c.isValid h = false) :
    close h c = (.error (.fault .handleInvalidated), c) := by
  rw [close, bind_apply, through_of_invalid hinvalid]

theorem tellsOnce (hvalid : c.isValid h = true) : TellsOnce c h where
  tells := by
    intro derived d hmaterialize
    have hsteady := isSteady_materialize h.connection (c.shut h)
    rw [hmaterialize] at hsteady
    have hnotices : d.notices = c.notices := hsteady.notices
    obtain ⟨e, done, htold, hafter, hheard, -⟩ := announce_tells h.connection derived d
    refine ⟨hnotices, e, done, ?_, ?_, ?_⟩
    · rw [close_apply hvalid hmaterialize, bind_apply, htold]
      cases derived <;> rfl
    · rw [hafter, hnotices]
    · have hlisteners : ((c.shut h).connection h.connection).listeners =
          (c.connection h.connection).listeners :=
        connection_shut Connection.listeners (fun _ => rfl) h.connection
      rw [hheard, (hsteady.front h.connection).listeners, (hsteady.front h.connection).holder,
        hlisteners, holder_shut]
  returns := by
    intro hreturns
    have hends := materialize_returns h.connection (c.shut h) (by
      rw [holder_shut]
      exact hreturns)
    obtain ⟨derived, hderived⟩ := hends
    exact ⟨derived, _, Prod.ext hderived rfl⟩

theorem handlesHold (c : Connector S) : HandlesHold c where
  alone := by
    rintro ⟨i, t⟩ ⟨j, u⟩ hvalid hvalid' hsame
    obtain rfl : i = j := hsame
    -- no two tokens of one connection are valid
    obtain rfl : t = u :=
      Option.some.inj ((isValid_iff.mp hvalid).symm.trans (isValid_iff.mp hvalid'))
    rfl
  given := fun i hi => getHandle_valid hi
  closed := by
    intro h
    cases hvalid : c.isValid h with
    | false =>
      rw [close_of_invalid hvalid]
      exact hvalid
    | true =>
      have hshut : (c.shut h).isValid h = false := isValid_invalidated rfl
      have htoken := Tokens.lt_issued (isValid_iff.mp hvalid)
      exact (ages_close hvalid).invalid
        (Nat.lt_of_lt_of_le htoken (ages_shut h c h.connection).issued) hshut
  invalidated := fun h => isValid_invalidated rfl
  cleaned := fun h => isValid_cleaned (cleanup_ends h.connection c).core
  cleanedByListener := by
    intro h kind holder error l hcleans
    obtain ⟨d, done, htold, -, -, hcore⟩ := tell_apply kind holder error l c
    rw [hcleans] at hcore
    rw [htold]
    exact isValid_cleaned hcore
  expires := by
    intro h us vs hvalid hinvalid
    have htoken := Tokens.lt_issued (isValid_iff.mp hvalid)
    rw [afterUses_append]
    exact (ages_uses vs _).invalid
      (Nat.lt_of_lt_of_le htoken (ages_uses us c h.connection).issued) hinvalid
  refused := by
    intro h hinvalid
    refine ⟨fun a => ?_, close_of_invalid hinvalid, fun thread a => ?_⟩
    · rw [accessThrough, bind_apply, through_of_invalid hinvalid]
    · rw [spawnThrough, bind_apply, observe, through_of_invalid hinvalid]
      rfl
  closes := fun h hvalid => tellsOnce hvalid

end

end Connector

/-! ## Reachable connectors -/

namespace Schedule

open Connector

variable {S : Type} [Backend S] {s : Schedule S}

/-- While the operations of each connection follow one another, no close has to wait. -/
theorem Reachable.materializes (hs : s.Reachable) {h : Handle} (hfree : s.IsFree h.connection) :
    ∃ derived d, s.connector.Releases h derived d := by
  cases hcontext : ((s.connector.shut h).connection h.connection).derivedContext? with
  | none => exact ⟨.ok none, _, materialize_of_none hcontext⟩
  | some context =>
    have hwrites : (s.journal h.connection).writes ≠ [] := by
      have hsome := Connection.writes_ne_nil_of_derivedContext? hcontext
      rwa [Connection.journal, participant_shut] at hsome
    have hlock := hs.lock_shut hfree hwrites
    exact ⟨_, _, materialize_of_some hcontext hlock⟩

/-- At any time of any run, and whatever else is then done with handles, the handles hold what is
said of them.  While order is kept, a close always returns. -/
theorem handles_hold (hs : s.Reachable) (us : List Use) :
    (s.connector.afterUses us).HandlesHold ∧
      ∀ h, s.IsFree h.connection → ∃ derived d, s.connector.Releases h derived d :=
  ⟨handlesHold _, fun _ hfree => hs.materializes hfree⟩

/-- A document was loaded, but the working repository cannot be opened.  Two listeners hear that the
handle is closed, and whatever follows, it is of no use any more. -/
theorem handles_hold_unopened :
    ∃ (_ : Backend Unit) (s : Schedule Unit), s.Reachable ∧
      s.connector.isValid ⟨0, 0⟩ = true ∧
      ∃ f e, Connector.close ⟨0, 0⟩ s.connector = (.error (.fault f), e) ∧
        e.notices.filterMap Notice.heard? =
          [(7, .closed, ⟨1⟩, none), (8, .closed, ⟨1⟩, none)] ∧
        ∀ us, (s.connector.afterUses ([.close ⟨0, 0⟩] ++ us)).isValid ⟨0, 0⟩ = false := by
  let stores : Backend Unit :=
    { durability := fun _ _ => .onCommit
      act := fun s _ _ => .ok () s
      select := fun s _ _ => .ok [] s
      ask := fun s _ _ => .ok true s
      create := fun s => .ok ⟨1⟩ s
      openWorking := fun s => .fail (.connection "gone") s
      shutDownWorking := fun s => .ok () s }
  obtain ⟨s, hs, hvalid, hfree, hlisteners, hholder, hnotices, hcontext⟩ :
      ∃ s, (freshWorking ()).follow
        [.connect, .getHandle 0, .listen 0 ⟨7, none⟩, .listen 0 ⟨8, none⟩,
          .beginAccess 0 (.write (.addData "urn:d" "urn:b:" "urn:g")), .carryOut 0] = some s ∧
      s.connector.isValid ⟨0, 0⟩ = true ∧ s.IsFree 0 ∧
      (s.connection 0).listeners = [⟨7, none⟩, ⟨8, none⟩] ∧ (s.connection 0).holder = ⟨1⟩ ∧
      s.connector.notices = [] ∧ (s.connection 0).derivedContext? = some "urn:g" :=
    ⟨_, rfl, rfl, ⟨by decide, rfl⟩, rfl, rfl, rfl, rfl⟩
  have hreachable : s.Reachable :=
    ⟨_, isNew_freshWorking _, leads_of_follow (fun _ _ _ => trivial) hs⟩
  obtain ⟨hholds, hreturns⟩ := handles_hold hreachable []
  obtain ⟨derived, d, hreleases⟩ := hreturns ⟨0, 0⟩ hfree
  -- the derivation is the one that cannot open the working repository
  have hfails : ∃ f, derived = .error f := by
    have hwrites : (s.journal 0).writes ≠ [] :=
      Connection.writes_ne_nil_of_derivedContext? hcontext
    have hlock := hreachable.lock_shut (h := ⟨0, 0⟩) hfree hwrites
    have hreleased := congrArg Prod.fst
      (hreleases.symm.trans (materialize_of_some (derivedContext?_shut.trans hcontext) hlock))
    rw [Derivation.run_of_unopened (f := .connection "gone") rfl] at hreleased
    cases derived with
    | ok report => contradiction
    | error f => exact ⟨f, rfl⟩
  obtain ⟨f, rfl⟩ := hfails
  obtain ⟨-, e, done, hclose, hafter, hheard⟩ := (hholds.closes ⟨0, 0⟩ hvalid).tells _ d hreleases
  refine ⟨stores, s, hreachable, hvalid, f, e, hclose, ?_, fun us => ?_⟩
  · rw [hafter]
    change (s.connector.notices ++ done).filterMap Notice.heard? = _
    rw [hnotices, List.nil_append, hheard]
    change (s.connection 0).listeners.map
      (fun l => (l.id, EventKind.closed, (s.connection 0).holder, none)) = _
    rw [hlisteners, hholder]
    rfl
  · exact hholds.expires ⟨0, 0⟩ [.close ⟨0, 0⟩] us hvalid (hholds.closed ⟨0, 0⟩)

end Schedule

end GraphCommit
