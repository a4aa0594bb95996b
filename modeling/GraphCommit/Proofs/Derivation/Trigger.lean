import GraphCommit.Proofs.Derivation.Turns
import GraphCommit.Proofs.Uniform
import GraphCommit.Scripted

/-!
# When closing a handle derives transformations

Closing a handle starts a pass over the working repository if there is one and the journal registers
a service: it has documents that were loaded into one and the same context, and nothing else.  The
pass is given this context and the whole journal.

A connection with writes in its journal has the write lock.  So a close that derives something is
granted the lock at once, and the lock stays as it is.  As only one connection can have the write
lock, no two of them are ever about to derive at the same time, and passes take turns.
-/

namespace GraphCommit

/-! ## Journals that register a service -/

/-- A branch has loaded documents into a context, and has done nothing else. -/
def Journal.Registers (j : Journal) (context : String) : Prop :=
  j.writes ≠ [] ∧ ∀ w ∈ j.writes, w.isAddData = true ∧ w.context = context

theorem Journal.serviceContext?_eq_some_iff {j : Journal} {context : String} :
    j.serviceContext? = some context ↔ j.Registers context := by
  unfold serviceContext? Registers
  cases hwrites : j.writes with
  | nil => simp
  | cons first rest =>
    simp only [Option.ite_none_right_eq_some, Option.some.injEq, List.all_eq_true, Bool.and_eq_true,
      beq_iff_eq]
    constructor
    · rintro ⟨hall, rfl⟩
      exact ⟨by simp, hall⟩
    · rintro ⟨-, hall⟩
      have hfirst := (hall first List.mem_cons_self).2
      rw [hfirst]
      exact ⟨hall, rfl⟩

theorem Connection.derivedContext?_eq_some_iff {x : Connection} {context : String} :
    x.derivedContext? = some context ↔ x.derives = true ∧ x.journal.Registers context := by
  rw [derivedContext?, Option.ite_none_right_eq_some, Journal.serviceContext?_eq_some_iff]

/-! ## The lock of a connection that has written -/

/-- A connection at rest that has written is granted the write lock at once, and nothing changes. -/
theorem Core.Orderly.lock_of_writes {S : Type} {k : Core S} {tasks : Nat → Task} {i : Nat}
    (ho : k.Orderly tasks) (hidle : tasks i = .idle) (hwrites : (k.journal i).writes ≠ []) :
    k.locks.lock (k.holder i) .exclusive = (.granted, k.locks) := by
  have hgrants := ho.writes i hwrites
  have hrests := ho.fits i (Core.Orderly.lt_of_writes hwrites)
  rw [hidle] at hrests
  have hhas : k.locks.requests.holds (k.holder i) = true :=
    (Lock.Queue.holds_iff _ _).mpr ⟨_, hgrants.1, rfl⟩
  rcases LockManager.Rests.lock_cases ho.coherent hrests .exclusive with
    ⟨-, hlock⟩ | ⟨hholds, -⟩ | ⟨hholds, -⟩
  · exact hlock
  · rw [hholds] at hhas
    contradiction
  · rw [hholds] at hhas
    contradiction

namespace Connector

section

variable {S : Type} {c : Connector S} {h : Handle} {i : Nat} {context : String}

/-! ## Closing a handle -/

/-- The connector after a handle was made invalid and the release of its connection began. -/
def shut (h : Handle) (c : Connector S) : Connector S :=
  { c with
    connections := c.connections.modify h.connection (·.invalidate h.token)
    outside := c.outside.note .debug Record.connections
      ("releasing " ++ (c.connection h.connection).holder.text) }

theorem connection_shut {β : Type} (g : Connection → β)
    (hg : ∀ x : Connection, g (x.invalidate h.token) = g x) (i : Nat) :
    g ((c.shut h).connection i) = g (c.connection i) :=
  Core.connection_update_keeps (c := c.core) g hg

theorem derivedContext?_shut : ((c.shut h).connection i).derivedContext? =
    (c.connection i).derivedContext? :=
  connection_shut Connection.derivedContext? (fun _ => rfl) i

theorem participant_shut : ((c.shut h).connection i).participant = (c.connection i).participant :=
  connection_shut Connection.participant (fun x => x.participant_invalidate h.token) i

theorem holder_shut : ((c.shut h).connection i).holder = (c.connection i).holder :=
  connection_shut Connection.holder (fun x => x.holder_invalidate h.token) i

variable [Backend S]

/-- A release derives nothing. -/
theorem materialize_of_none (hcontext : (c.connection i).derivedContext? = none) :
    materialize i c = (.ok none, c) := by
  simp only [materialize, Effect.bind_apply, connectionAt_apply, hcontext, Effect.pure_apply]

/-- A release derives transformations, and does not have to wait for the lock. -/
theorem materialize_of_some (hcontext : (c.connection i).derivedContext? = some context)
    (hlock : c.locks.lock (c.connection i).holder .exclusive = (.granted, c.locks)) :
    materialize i c =
      (((Derivation.run (c.connection i).client context (c.connection i).journal.writes
          c.outside).1.map some).mapError .fault,
        { c with outside := (Derivation.run (c.connection i).client context
          (c.connection i).journal.writes c.outside).2 }) := by
  have hask : ask i .exclusive c = (.ok .granted, c) := by
    simp only [ask, Effect.bind_apply, Effect.get_apply, hlock, Effect.set_apply]
    rfl
  have hacquire : acquire i .exclusive c = (.ok (), c) := by
    simp only [acquire, Effect.bind_apply, hask, await, Effect.pure_apply]
  simp only [materialize, Effect.bind_apply, connectionAt_apply, hcontext, hacquire,
    Effect.map_apply, derive, job_apply]
  cases (Derivation.run (c.connection i).client context (c.connection i).journal.writes
    c.outside).1 <;> rfl

omit [Backend S] in
/-- A release that follows begins with a record. -/
theorem note_invalidated (h : Handle) (c : Connector S) :
    note .debug Record.connections
      ("releasing " ++ ((invalidate h c).2.connection h.connection).holder.text)
      (invalidate h c).2 = (.ok (), c.shut h) := by
  have hholder : ((invalidate h c).2.connection h.connection).holder =
      (c.connection h.connection).holder :=
    Core.connection_update_keeps (c := c.core) Connection.holder fun x => x.holder_invalidate _
  rw [hholder]
  rfl

/-- A handle that is valid is closed: its connection is released, and its listeners are told. -/
theorem close_of_valid (hvalid : c.isValid h = true) :
    close h c = (do
      let derived ← observe (materialize h.connection)
      let _ ← announce h.connection derived : Run S Unit) (c.shut h) := by
  have hthrough : through h c = (.ok h.connection, c) := by
    simp only [through, Effect.bind_apply, Effect.get_apply, hvalid]
    rfl
  have hrelease : release h.connection (invalidate h c).2 =
      (observe (materialize h.connection) >>= announce h.connection) (c.shut h) := by
    rw [release, Effect.bind_apply, connectionAt_apply]
    dsimp only
    rw [Effect.bind_apply, note_invalidated]
  rw [close, Effect.bind_apply, hthrough]
  dsimp only
  rw [Effect.bind_apply, show invalidate h c = (.ok (), (invalidate h c).2) from rfl]
  dsimp only
  rw [Effect.bind_apply, hrelease, Effect.bind_apply, Effect.bind_apply]
  rcases observe (materialize h.connection) (c.shut h) with ⟨halt | derived, d⟩
  · rfl
  · dsimp only
    rw [Effect.bind_apply]

/-- The same where the release has derived something, or has failed to. -/
theorem close_apply (hvalid : c.isValid h = true)
    {derived : Except Fault (Option Derivation.Report)} {d : Connector S}
    (hmaterialize : materialize h.connection (c.shut h) = (derived.mapError .fault, d)) :
    close h c = (do let _ ← announce h.connection derived : Run S Unit) d := by
  have hobserve : observe (materialize h.connection) (c.shut h) = (.ok derived, d) := by
    rw [observe, hmaterialize]
    cases derived <;> rfl
  rw [close_of_valid hvalid, Effect.bind_apply, hobserve]

end

section

variable {S α β : Type} {c : Connector (Recorded S)} {h : Handle} {i : Nat}

/-! ## Telling the listeners -/

/-- An operation that returns and leaves the working repository alone. -/
def Spares (r : Run (Recorded S) α) : Prop :=
  ∀ c, ∃ a d, r c = (.ok a, d) ∧ c.outside.stores.Spares d.outside.stores

theorem Spares.bind {r : Run (Recorded S) α} {f : α → Run (Recorded S) β} (hr : Spares r)
    (hf : ∀ a, Spares (f a)) : Spares (r >>= f) := by
  intro c
  obtain ⟨a, d, hfirst, hspares⟩ := hr c
  obtain ⟨b, e, hsecond, hlater⟩ := hf a d
  exact ⟨b, e, by rw [Effect.bind_apply, hfirst]; exact hsecond, hspares.trans hlater⟩

theorem spares_forM {f : β → Run (Recorded S) Unit} (hf : ∀ b, Spares (f b)) (l : List β) :
    Spares (l.forM f) := by
  induction l with
  | nil => exact fun c => ⟨(), c, rfl, .refl _⟩
  | cons b rest ih => exact (hf b).bind fun _ => ih

theorem spares_note (level : Level) (target message : String) :
    Spares (note level target message : Run (Recorded S) Unit) := fun _ => ⟨_, _, rfl, .refl _⟩

variable [Backend S]

/-- A listener may clean a connection, which drops its client's connection and nothing else. -/
theorem spares_tell (kind : EventKind) (holder : Holder) (error : Option String) (l : Listener) :
    Spares (tell kind holder error l : Run (Recorded S) Unit) := by
  have hhear : ∀ n, Spares (hear n : Run (Recorded S) Unit) := fun _ _ => ⟨_, _, rfl, .refl _⟩
  refine (hhear _).bind fun _ => ?_
  cases l.cleans with
  | none => exact fun c => ⟨(), c, rfl, .refl _⟩
  | some other =>
    have hcleanup : Spares (observe (cleanup other) : Run (Recorded S) (Except Fault Unit)) := by
      intro c
      obtain ⟨result, d, hd, hcore⟩ := (cleanup_ends other c).observe
      refine ⟨result, d, hd, ?_⟩
      change c.outside.stores.Spares d.core.stores
      rw [hcore]
      exact Recorded.spares_clean c.core other
    exact hcleanup.bind fun _ => hhear _

/-- The listeners are told whatever came of the derivation, and then its fault is returned. -/
theorem announce_apply (i : Nat) (derived : Except Fault (Option Derivation.Report))
    (c : Connector (Recorded S)) :
    (announce i derived c).1 = derived.mapError .fault ∧
      c.outside.stores.Spares (announce i derived c).2.outside.stores := by
  have hnote : Spares (noteDerivation i derived : Run (Recorded S) Unit) := by
    cases derived with
    | ok report => exact fun c => ⟨(), c, rfl, .refl _⟩
    | error f => exact fun c => spares_note _ _ _ c
  have hsend : Spares (sendEvent i .closed none : Run (Recorded S) Unit) :=
    fun c => spares_forM (spares_tell .closed (c.connection i).holder none) _ c
  obtain ⟨_, d, hnoted, hspared⟩ := hnote c
  obtain ⟨_, e, hsent, hspares⟩ := hsend d
  unfold announce
  rw [Effect.bind_apply, hnoted]
  dsimp only
  rw [Effect.bind_apply, hsent]
  cases derived <;> exact ⟨rfl, hspared.trans hspares⟩

/-- A close goes on from what its release has derived, if anything. -/
structure ClosesWith (c : Connector (Recorded S)) (h : Handle)
    (derived : Except Fault (Option Derivation.Report)) (o : Outside (Recorded S)) : Prop where
  /-- The listeners are told.  The lock is as it was before the close. -/
  runs : close h c =
    (do let _ ← announce h.connection derived : Run (Recorded S) Unit)
      { c.shut h with outside := o }
  /-- If the close fails, it is the derivation that has failed. -/
  answer : (close h c).1 = (derived.map fun _ => ()).mapError .fault
  /-- Nobody but the derivation has to do with the working repository. -/
  spares : o.stores.Spares (close h c).2.outside.stores

theorem closesWith {derived : Except Fault (Option Derivation.Report)} {o : Outside (Recorded S)}
    (hvalid : c.isValid h = true) (hmaterialize : materialize h.connection (c.shut h) =
      (derived.mapError .fault, { c.shut h with outside := o })) : ClosesWith c h derived o := by
  have hruns := close_apply hvalid hmaterialize
  obtain ⟨hanswer, hspares⟩ := announce_apply h.connection derived
    ({ c.shut h with outside := o } : Connector (Recorded S))
  refine ⟨hruns, ?_, ?_⟩
  · rw [hruns, Effect.bind_apply]
    rcases hannounce : announce h.connection derived
        ({ c.shut h with outside := o } : Connector (Recorded S)) with ⟨e | report, d⟩ <;>
      rw [hannounce] at hanswer
    · cases derived with
      | ok report => contradiction
      | error f => exact congrArg Except.error (Except.error.inj hanswer)
    · cases derived with
      | ok report => rfl
      | error f => contradiction
  · rw [hruns, Effect.bind_pure_snd]
    exact hspares

end

end Connector

/-! ## Tasks that derive -/

/-- A connection derives what its journal registers, and does not wait for the lock to do so. -/
def Task.Suits (x : Connection) : Task → Prop
  | .waiting _ (.derive ..) => False
  | .ready (.derive context writes) =>
    x.derivedContext? = some context ∧ writes = x.journal.writes
  | _ => True

theorem Task.suits_of_none {task : Task} {x : Connection} (hsource : task.source? = none) :
    task.Suits x := by
  cases task with
  | waiting ticket work => cases work <;> simp_all [Task.source?, Task.Suits]
  | ready work => cases work <;> simp_all [Task.source?, Task.Suits]
  | _ => trivial

theorem Task.Suits.of_eq {task : Task} {x y : Connection} (hsuits : task.Suits x)
    (hcontext : y.derivedContext? = x.derivedContext?) (hjournal : y.journal = x.journal) :
    task.Suits y := by
  cases task with
  | waiting ticket work => cases work <;> simp_all [Task.Suits]
  | ready work => cases work <;> simp_all [Task.Suits]
  | _ => trivial

theorem Task.Suits.not_waiting {task : Task} {x : Connection} (hsuits : task.Suits x)
    (ticket : Nat) (context : String) (writes : List Write) :
    task ≠ .waiting ticket (.derive context writes) := by
  rintro rfl
  exact hsuits

theorem Task.Suits.exists_ready {task : Task} {x : Connection} (hsuits : task.Suits x)
    (hsource : task.source? ≠ none) :
    ∃ context writes, task = .ready (.derive context writes) := by
  cases task with
  | ready work =>
    cases work with
    | derive context writes => exact ⟨context, writes, rfl⟩
    | _ => exact absurd rfl hsource
  | waiting ticket work =>
    cases work with
    | derive context writes => exact hsuits.elim
    | _ => exact absurd rfl hsource
  | _ => exact absurd rfl hsource

namespace Schedule

section

variable {S : Type} [Backend S] {s s' : Schedule S} {m : Move} {i : Nat} {context : String}

/-- A connection that derives transformations of a context when it is released now. -/
def Derives (s : Schedule S) (i : Nat) (context : String) : Prop :=
  s.connector.hasWorking = true ∧ (s.journal i).Registers context

theorem Reachable.derives_eq (hs : s.Reachable) (hi : i < s.size) :
    (s.connection i).derives = s.connector.hasWorking := by
  refine hs.uniform.derives _ ?_
  have hget : s.connection i = s.connector.connections[i] := by
    simp [connection, Connector.connection, List.getD_eq_getElem?_getD,
      show i < s.connector.connections.length from hi]
    rfl
  rw [hget]
  exact List.getElem_mem _

theorem Reachable.derivedContext?_eq_some_iff (hs : s.Reachable) (hi : i < s.size) :
    (s.connection i).derivedContext? = some context ↔ s.Derives i context := by
  rw [Connection.derivedContext?_eq_some_iff, hs.derives_eq hi]
  rfl

theorem Reachable.derivedContext?_eq_none (hs : s.Reachable) (hi : i < s.size)
    (hnone : ∀ context, ¬ s.Derives i context) : (s.connection i).derivedContext? = none := by
  rw [Option.eq_none_iff_forall_ne_some]
  exact fun context hcontext => hnone context ((hs.derivedContext?_eq_some_iff hi).mp hcontext)

omit [Backend S] in
theorem turn_of_yields {r : Connector.Run S Task} {task : Task} {k : Core S}
    (hr : Connector.Yields r s.connector task k) :
    (s.turn i r).tasks = Function.update s.tasks i task ∧ (s.turn i r).core = k := by
  obtain ⟨d, hd, rfl⟩ := hr
  rw [turn, hd]
  exact ⟨rfl, rfl⟩

/-- A release that begins derives something at once, or there is nothing to derive. -/
theorem Step.begins (hstep : Step s (.beginRelease i) s') (ho : s.core.Orderly s.tasks) :
    s'.core = s.core ∧ ∃ task, s'.tasks = Function.update s.tasks i task ∧
      (((s.connection i).derivedContext? = none ∧ task = .closing (.ok none)) ∨
      ∃ context, (s.connection i).derivedContext? = some context ∧
        task = .ready (.derive context (s.journal i).writes)) := by
  cases hstep with
  | beginRelease hfree =>
    rcases Connector.yields_beginRelease i s.connector with
      ⟨hnone, hyields⟩ | ⟨context, hcontext, hyields⟩
    · obtain ⟨htasks, hcore⟩ := turn_of_yields hyields
      exact ⟨hcore, _, htasks, Or.inl ⟨hnone, rfl⟩⟩
    · have hwrites := Connection.writes_ne_nil_of_derivedContext? hcontext
      have hlock := ho.lock_of_writes hfree.2 hwrites
      rw [show s.connector.core.locks.lock (s.connector.core.holder i) .exclusive = _ from hlock]
        at hyields
      obtain ⟨htasks, hcore⟩ := turn_of_yields hyields
      exact ⟨hcore, _, htasks, Or.inr ⟨context, hcontext, rfl⟩⟩

/-- Only a release that begins makes a connection derive something, unless it waits for that. -/
theorem Step.source?_cases (hstep : Step s m s') (hm : m ≠ .beginRelease i)
    (hwaits : ∀ ticket context writes, s.tasks i ≠ .waiting ticket (.derive context writes)) :
    s'.tasks i = s.tasks i ∨ (s'.tasks i).source? = none := by
  -- the tasks of other connections stay, so only that of the connection itself is to be looked at
  have hturn : ∀ {j : Nat} {r : Connector.Run S Task} {task : Task} {k : Core S},
      Connector.Yields r s.connector task k → (i = j → task.source? = none) →
      (s.turn j r).tasks i = s.tasks i ∨ ((s.turn j r).tasks i).source? = none := by
    intro j r task k hyields hsource
    rw [(turn_of_yields hyields).1]
    by_cases hij : i = j
    · subst hij
      rw [Function.update_self]
      exact Or.inr (hsource rfl)
    · rw [Function.update_of_ne hij]
      exact Or.inl rfl
  cases hstep with
  | @beginAccess j a hfree =>
    refine hturn (Connector.yields_beginAccess j a s.connector) fun _ => ?_
    -- an access is not work that derives something
    by_contra hsome
    obtain ⟨writes, hwrites⟩ := Option.ne_none_iff_exists'.mp hsome
    obtain ⟨context, hwork⟩ := Task.source?_answered hwrites
    cases a <;> contradiction
  | @beginRelease j hfree =>
    rcases Connector.yields_beginRelease j s.connector with ⟨-, hyields⟩ | ⟨context, -, hyields⟩
    · exact hturn hyields fun _ => rfl
    · exact hturn hyields fun hij => absurd (congrArg Move.beginRelease hij.symm) hm
  | @proceed j ticket work htask hreturned =>
    refine hturn (Connector.yields_proceed ticket work s.connector) ?_
    rintro rfl
    split
    · exact Task.source?_failed _ _
    · cases work with
      | derive context writes => exact absurd htask (hwaits ticket context writes)
      | _ => rfl
  | @carryOut j work htask =>
    cases work with
    | write w => exact hturn (Connector.yields_carryOut_write j w s.connector) fun _ => rfl
    | select text => exact hturn (Connector.yields_carryOut_select j text s.connector) fun _ => rfl
    | derive context writes =>
      obtain ⟨derived, hyields⟩ := Connector.yields_carryOut_derive j context writes s.connector
      exact hturn hyields fun _ => rfl
  | endQuery htask => exact hturn (Connector.yields_endQuery _ s.connector) fun _ => rfl
  | endRelease htask =>
    exact hturn (Connector.yields_endRelease _ _ s.connector) fun _ => Task.source?_told _ _ _
  | endWithError f hfree =>
    exact hturn (Connector.yields_endWithError _ f s.connector) fun _ => Task.source?_told _ _ _
  | tell htask htell =>
    exact hturn (Connector.yields_tellNext _ _ _ _ _ s.connector) fun _ => Task.source?_told _ _ _
  | _ => exact Or.inl rfl

/-- A connection that is cleaned is not about to work. -/
theorem Step.not_ready_of_cleans (hstep : Step s m s') (hcleans : s.Cleans i m) (work : Work) :
    s.tasks i ≠ .ready work := by
  intro htask
  cases hstep with
  | cleanup hfree =>
    obtain rfl : _ = i := hcleans
    rw [hfree.2] at htask
    contradiction
  | @tell j kind error l rest htask' htell =>
    rcases htell i ((cleans_tell htask').mp hcleans) with rfl | hfree
    · rw [htask'] at htask
      contradiction
    · rw [hfree.2] at htask
      contradiction
  | _ => exact hcleans.elim

/-- A connection that is about to derive keeps its journal until it has derived. -/
theorem Step.journal_of_ready (hstep : Step s m s') {writes : List Write}
    (htask : s.tasks i = .ready (.derive context writes)) (hi : i < s.size) :
    s'.journal i = s.journal i := by
  rcases hstep.participant_cases hi with
    ⟨-, hsame⟩ | ⟨w, -, htask', -⟩ | ⟨command, t, -, hobeys, -⟩ | ⟨hcleans, -⟩
  · exact congrArg Participant.journal hsame
  · exact absurd (Task.ready.inj (htask.symm.trans htask')) (by simp)
  · exact hobeys.keeps.2.2
  · exact absurd htask (hstep.not_ready_of_cleans hcleans _)

/-- What a connection depends on that is about to derive stays as it is. -/
theorem Step.derivedContext?_of_source? (hs : s.Reachable) (hstep : Step s m s')
    (hsuits : (s.tasks i).Suits (s.connection i)) (hsource : (s.tasks i).source? ≠ none) :
    s'.journal i = s.journal i ∧
      (s'.connection i).derivedContext? = (s.connection i).derivedContext? := by
  have hi : i < s.size := hs.orderly.lt_of_task fun hidle => hsource (by rw [hidle]; rfl)
  obtain ⟨context, writes, htask⟩ := hsuits.exists_ready hsource
  have hjournal : (s'.connection i).journal = (s.connection i).journal :=
    hstep.journal_of_ready htask hi
  have hderives : (s'.connection i).derives = (s.connection i).derives := by
    rw [(hs.step hstep).derives_eq (Nat.lt_of_lt_of_le hi hstep.size_le), hs.derives_eq hi]
    exact hstep.hasWorking hs
  refine ⟨hjournal, ?_⟩
  rw [Connection.derivedContext?, Connection.derivedContext?, hderives, hjournal]

theorem Step.suits (hs : s.Reachable) (hstep : Step s m s')
    (hsuits : (s.tasks i).Suits (s.connection i)) : (s'.tasks i).Suits (s'.connection i) := by
  by_cases hm : m = .beginRelease i
  · subst hm
    obtain ⟨hcore, task, htasks, htask⟩ := hstep.begins hs.orderly
    have hsame : s'.connection i = s.connection i :=
      congrArg (fun k : Core S => k.connection i) hcore
    rw [htasks, Function.update_self, hsame]
    rcases htask with ⟨-, rfl⟩ | ⟨context, hcontext, rfl⟩
    · trivial
    · exact ⟨hcontext, rfl⟩
  · rcases hstep.source?_cases hm hsuits.not_waiting with hsame | hnone
    · -- the task stays, so what matters is whether it derives something
      rw [hsame]
      by_cases hsource : (s.tasks i).source? = none
      · exact Task.suits_of_none hsource
      · obtain ⟨hjournal, hcontext⟩ := hstep.derivedContext?_of_source? hs hsuits hsource
        exact hsuits.of_eq hcontext hjournal
    · exact Task.suits_of_none hnone

theorem Reachable.suits (hs : s.Reachable) (i : Nat) : (s.tasks i).Suits (s.connection i) := by
  obtain ⟨s₀, hnew, hrun⟩ := hs
  induction hrun with
  | refl =>
    rw [hnew.tasks]
    trivial
  | tail hrun hallowed hstep ih => exact hstep.suits ⟨s₀, hnew, hrun⟩ ih

/-- Beside a connection that is about to derive, no other one is about to work. -/
theorem Reachable.eq_of_ready (hs : s.Reachable) {writes : List Write} {j : Nat} {work : Work}
    (hi : s.tasks i = .ready (.derive context writes)) (hj : s.tasks j = .ready work) : j = i := by
  have ho := hs.orderly
  have hexists : ∀ {a : Nat} {work : Work}, s.tasks a = .ready work → a < s.core.size ∧
      s.core.locks.Holds (s.core.holder a) work.mode := by
    intro a work htask
    have hlt : a < s.core.size := ho.lt_of_task (by simp [htask])
    have hfits := ho.fits a hlt
    rw [htask] at hfits
    exact ⟨hlt, hfits⟩
  obtain ⟨hilt, hiholds⟩ := hexists hi
  obtain ⟨hjlt, hjholds⟩ := hexists hj
  have hgrants : s.core.locks.requests.Grants (s.core.holder i) .exclusive :=
    hiholds.granted.elim id id
  refine ho.holders j i hjlt hilt ?_
  rcases hjholds.granted with hother | hother
  · exact hgrants.eq_of_exclusive ho.coherent.single hother
  · exact hgrants.eq_of_exclusive ho.coherent.single hother

/-- The transformations of a context are derived. -/
theorem Step.carries {writes : List Write} (hstep : Step s (.carryOut i) s')
    (htask : s.tasks i = .ready (.derive context writes)) :
    s'.connector = { s.connector with
      outside := (Derivation.run (s.connection i).client context writes
        s.connector.outside).2 } ∧
    s'.tasks i = .closing ((Derivation.run (s.connection i).client context writes
      s.connector.outside).1.map some) := by
  have hcarry : Connector.carryOut i (.derive context writes) s.connector =
      (.ok (.closing ((Derivation.run (s.connection i).client context writes
          s.connector.outside).1.map some)),
        { s.connector with outside := (Derivation.run (s.connection i).client context writes
          s.connector.outside).2 }) := by
    simp only [Connector.carryOut, Effect.bind_apply, Connector.observe, Connector.derive,
      Connector.connectionAt_apply, Connector.job_apply]
    cases (Derivation.run (s.connection i).client context writes s.connector.outside).1 <;> rfl
  cases hstep with
  | carryOut htask' =>
    rw [htask] at htask'
    obtain rfl := Task.ready.inj htask'
    rw [Schedule.turn, hcarry]
    exact ⟨rfl, Function.update_self _ _ _⟩

end

/-! ## The history of a run -/

section

open Recorded

variable {S : Type} [Backend S] {s t s' : Schedule (Recorded S)} {m : Move}

/-- A step derives transformations in one pass, or spares the working repository. -/
theorem Step.pass_or_spares (hstep : Step s m s') :
    (∃ i context writes, m = .carryOut i ∧ s.tasks i = .ready (.derive context writes) ∧
      ∃ asked, s'.core.stores.history = s.core.stores.history ++ asked ∧ IsPass asked) ∨
    s.core.stores.Spares s'.core.stores := by
  have hturn := hstep.turn
  generalize s'.core = k at hturn ⊢
  generalize s'.tasks = tasks at hturn
  cases hturn with
  | createdNone => exact Or.inr (spares_after _ (q := .create) rfl)
  | created strategy derives hclient => exact Or.inr (spares_after _ (q := .create) rfl)
  | @wrote i w htask => exact Or.inr (spares_perform s.core i w)
  | @queried i text result htask =>
    exact Or.inr (spares_after _ (q := .select (s.core.connection i).client text) rfl)
  | @derived i context writes o result htask ho =>
    obtain ⟨asked, hasked, hpass⟩ := isPass_run (s.core.connection i).client context writes o
    rw [ho] at hasked
    exact Or.inl ⟨i, context, writes, rfl, htask, asked, hasked, hpass⟩
  | @toldCleaning i other kind error l rest htask hcleans hfree =>
    exact Or.inr (spares_clean s.core other)
  | coordinated hi hobeys => exact Or.inr (spares_of_obeys hobeys)
  | @cleaned i hfree => exact Or.inr (spares_clean s.core i)
  | @destroyed i hfree =>
    exact Or.inr (spares_after _ (q := .act (s.core.connection i).client .disconnect) rfl)
  | _ => exact Or.inr (.refl _)

/-- Passes take turns in every run. -/
theorem Leads.takesTurns {allowed : Schedule (Recorded S) → Move → Prop}
    (hrun : Leads allowed s t) :
    ∃ asked, t.core.stores.history = s.core.stores.history ++ asked ∧ TakesTurns asked := by
  induction hrun with
  | refl => exact ⟨[], by simp, takesTurns_nil⟩
  | tail hrun hallowed hstep ih =>
    obtain ⟨asked, hasked, hturns⟩ := ih
    obtain ⟨later, hlater, hlast⟩ : ∃ later, _ = _ ++ later ∧ TakesTurns later := by
      rcases hstep.pass_or_spares with ⟨-, -, -, -, -, later, hlater, hpass⟩ |
        ⟨later, hlater, hspared⟩
      · exact ⟨later, hlater, hpass.takesTurns⟩
      · exact ⟨later, hlater, takesTurns_of_spared hspared⟩
    exact ⟨asked ++ later, by rw [hlater, hasked, List.append_assoc], hturns.append hlast⟩

/-! ## The whole statement -/

/-- Closing a handle derives transformations when it should, and passes take turns. -/
structure Triggers (s : Schedule (Recorded S)) : Prop where
  /-- To close a valid handle opens the working repository just if there is one and the journal
  registers a service. -/
  opens : ∀ h, s.connector.isValid h = true → s.IsFree h.connection →
    ∃ asked, (Connector.close h s.connector).2.outside.stores.history =
        s.core.stores.history ++ asked ∧
      (.openWorking ∈ asked.map Entry.question ↔ ∃ context, s.Derives h.connection context)
  /-- Then one pass is run for the context and the whole journal.  The lock is not changed, and the
  close fails only if the pass does. -/
  derives : ∀ h context, s.connector.isValid h = true → s.IsFree h.connection →
    s.Derives h.connection context →
    s.connector.ClosesWith h
        ((Derivation.run (s.connection h.connection).client context
          (s.journal h.connection).writes (s.connector.shut h).outside).1.map some)
        (Derivation.run (s.connection h.connection).client context
          (s.journal h.connection).writes (s.connector.shut h).outside).2 ∧
      ∃ asked, (Derivation.run (s.connection h.connection).client context
          (s.journal h.connection).writes (s.connector.shut h).outside).2.stores.history =
        s.core.stores.history ++ asked ∧ IsPass asked
  /-- Otherwise nothing is derived. -/
  rests : ∀ h, s.connector.isValid h = true → s.IsFree h.connection →
    (∀ context, ¬ s.Derives h.connection context) →
    s.connector.ClosesWith h (.ok none) (s.connector.shut h).outside
  /-- While other connections go on, a release that begins is ready to derive at once, or has
  nothing to derive.  Neither it nor anybody else gets or waits for a lock. -/
  begins : ∀ i s', Step s (.beginRelease i) s' → s'.core = s.core ∧
    (∀ context, s.Derives i context →
      s'.tasks i = .ready (.derive context (s.journal i).writes)) ∧
    ((∀ context, ¬ s.Derives i context) → s'.tasks i = .closing (.ok none))
  waits : ∀ i ticket context writes, s.tasks i ≠ .waiting ticket (.derive context writes)
  /-- A connection that is ready to derive still has what it is about to derive, and the lock. -/
  ready : ∀ i context writes, s.tasks i = .ready (.derive context writes) →
    s.Derives i context ∧ writes = (s.journal i).writes ∧
      s.core.locks.requests.Grants (s.core.holder i) .exclusive
  /-- Its pass is run, and goes to the stores and the log alone. -/
  carries : ∀ i context writes s', s.tasks i = .ready (.derive context writes) →
    Step s (.carryOut i) s' →
    s'.connector = { s.connector with
      outside := (Derivation.run (s.connection i).client context writes
        s.connector.outside).2 } ∧
    s'.tasks i = .closing ((Derivation.run (s.connection i).client context writes
      s.connector.outside).1.map some) ∧
    ∃ asked, s'.core.stores.history = s.core.stores.history ++ asked ∧ IsPass asked
  /-- Nothing else opens the working repository or shuts it down. -/
  spares : ∀ m s', Step s m s' →
    (∀ i context writes, m = .carryOut i → s.tasks i ≠ .ready (.derive context writes)) →
    s.core.stores.Spares s'.core.stores
  /-- From when a connection is ready to derive until it has derived, no other one is ready for
  anything.  So two passes are never in progress. -/
  alone : ∀ i context writes, s.tasks i = .ready (.derive context writes) →
    ∀ j work, s.tasks j = .ready work → j = i
  /-- So the working repository is never opened while it is open, and a pass never shuts it down
  under another one. -/
  turns : ∀ s₀, Leads (fun _ _ => True) s₀ s →
    ∃ asked, s.core.stores.history = s₀.core.stores.history ++ asked ∧ TakesTurns asked

/-- A connection that has written still has the write lock when its handle was made invalid. -/
theorem Reachable.lock_shut {S : Type} [Backend S] {s : Schedule S} (hs : s.Reachable)
    {h : Handle} (hfree : s.IsFree h.connection)
    (hwrites : (s.journal h.connection).writes ≠ []) :
    (s.connector.shut h).locks.lock
        ((s.connector.shut h).connection h.connection).holder .exclusive =
      (.granted, (s.connector.shut h).locks) := by
  rw [Connector.holder_shut]
  exact hs.orderly.lock_of_writes hfree.2 hwrites

/-- A close that derives. -/
theorem Reachable.closes (hs : s.Reachable) {h : Handle} {context : String}
    (hvalid : s.connector.isValid h = true) (hfree : s.IsFree h.connection)
    (hderives : s.Derives h.connection context) :
    s.connector.ClosesWith h
      ((Derivation.run (s.connection h.connection).client context
        (s.journal h.connection).writes (s.connector.shut h).outside).1.map some)
      (Derivation.run (s.connection h.connection).client context
        (s.journal h.connection).writes (s.connector.shut h).outside).2 := by
  have hcontext : ((s.connector.shut h).connection h.connection).derivedContext? = some context :=
    Connector.derivedContext?_shut.trans ((hs.derivedContext?_eq_some_iff hfree.1).mpr hderives)
  have hmaterialize :=
    Connector.materialize_of_some hcontext (hs.lock_shut hfree hderives.2.1)
  rw [Connection.client, Connection.journal, Connector.participant_shut] at hmaterialize
  exact Connector.closesWith hvalid hmaterialize

/-- A close that derives nothing. -/
theorem Reachable.closes_idly (hs : s.Reachable) {h : Handle}
    (hvalid : s.connector.isValid h = true) (hfree : s.IsFree h.connection)
    (hnone : ∀ context, ¬ s.Derives h.connection context) :
    s.connector.ClosesWith h (.ok none) (s.connector.shut h).outside := by
  have hcontext : ((s.connector.shut h).connection h.connection).derivedContext? = none :=
    Connector.derivedContext?_shut.trans (hs.derivedContext?_eq_none hfree.1 hnone)
  exact Connector.closesWith hvalid (Connector.materialize_of_none hcontext)

/-- At any time of any run, closing a handle derives transformations when it should. -/
theorem triggers (hs : s.Reachable) : s.Triggers where
  opens := by
    intro h hvalid hfree
    -- a whole release: a pass and then what spares the working repository, or that alone
    by_cases hderives : ∃ context, s.Derives h.connection context
    · obtain ⟨context, hderives⟩ := hderives
      obtain ⟨later, hlater, -⟩ := (hs.closes hvalid hfree hderives).spares
      obtain ⟨asked, hasked, hpass⟩ := isPass_run (s.connection h.connection).client context
        (s.journal h.connection).writes (s.connector.shut h).outside
      refine ⟨asked ++ later, ?_, fun _ => ⟨context, hderives⟩, fun _ => ?_⟩
      · rw [hlater, hasked, List.append_assoc]
        rfl
      · rw [List.map_append]
        exact List.mem_append_left _ hpass.opens
    · have hnone : ∀ context, ¬ s.Derives h.connection context := not_exists.mp hderives
      obtain ⟨asked, hasked, hspared⟩ := (hs.closes_idly hvalid hfree hnone).spares
      refine ⟨asked, hasked, fun hopens => ?_, fun hsome => absurd hsome hderives⟩
      exact absurd hopens (not_opens_of_spared hspared)
  derives := fun h context hvalid hfree hderives =>
    ⟨hs.closes hvalid hfree hderives, isPass_run _ _ _ _⟩
  rests := fun h hvalid hfree hnone => hs.closes_idly hvalid hfree hnone
  begins := by
    intro i s' hstep
    have hi : i < s.size := by
      cases hstep with
      | beginRelease hfree => exact hfree.1
    obtain ⟨hcore, task, htasks, htask⟩ := hstep.begins hs.orderly
    rw [htasks, Function.update_self]
    refine ⟨hcore, fun context hderives => ?_, fun hnone => ?_⟩
    · have hcontext := (hs.derivedContext?_eq_some_iff hi).mpr hderives
      rcases htask with ⟨hnone, -⟩ | ⟨context', hcontext', rfl⟩
      · rw [hcontext] at hnone
        contradiction
      · rw [Option.some.inj (hcontext.symm.trans hcontext')]
    · have hcontext := hs.derivedContext?_eq_none hi hnone
      rcases htask with ⟨-, rfl⟩ | ⟨context, hsome, -⟩
      · rfl
      · rw [hcontext] at hsome
        contradiction
  waits := fun i => (hs.suits i).not_waiting
  ready := by
    intro i context writes htask
    have hi : i < s.size := hs.orderly.lt_of_task (by simp [htask])
    have hsuits := hs.suits i
    rw [htask] at hsuits
    obtain ⟨hcontext, hwrites⟩ := hsuits
    have hderives := (hs.derivedContext?_eq_some_iff hi).mp hcontext
    exact ⟨hderives, hwrites, hs.orderly.writes i hderives.2.1⟩
  carries := by
    intro i context writes s' htask hstep
    obtain ⟨hconnector, hclosing⟩ := hstep.carries htask
    refine ⟨hconnector, hclosing, ?_⟩
    change ∃ asked, s'.connector.outside.stores.history = _ ++ asked ∧ _
    rw [hconnector]
    exact isPass_run _ _ _ _
  spares := by
    intro m s' hstep hother
    rcases hstep.pass_or_spares with ⟨i, context, writes, hm, htask, -⟩ | hspares
    · exact absurd htask (hother i context writes hm)
    · exact hspares
  alone := fun i context writes hi j work hj => hs.eq_of_ready hi hj
  turns := fun s₀ hrun => hrun.takesTurns

/-- A document was loaded through a handle that is still valid.  The repositories follow a script,
and one connection was made. -/
theorem triggers_registered :
    ∃ s : Schedule (Recorded Scripted), s.Triggers ∧ s.connector.isValid ⟨0, 0⟩ = true ∧
      s.IsFree 0 ∧ s.Derives 0 "urn:g" ∧
      ∃ asked, (Connector.close ⟨0, 0⟩ s.connector).2.outside.stores.history =
        s.core.stores.history ++ asked ∧ .openWorking ∈ asked.map Entry.question := by
  obtain ⟨s, hs, hvalid, hfree, hworking, hjournal⟩ :
      ∃ s, (freshWorking (S := Recorded Scripted) { stores := {} }).follow
      [.connect, .getHandle 0, .beginAccess 0 (.write (.addData "urn:d" "urn:b:" "urn:g")),
        .carryOut 0] = some s ∧ s.connector.isValid ⟨0, 0⟩ = true ∧ s.IsFree 0 ∧
      s.connector.hasWorking = true ∧ (s.journal 0).writes = [.addData "urn:d" "urn:b:" "urn:g"] :=
    ⟨_, rfl, rfl, ⟨by decide, rfl⟩, rfl, rfl⟩
  have hreachable : s.Reachable :=
    ⟨_, isNew_freshWorking _, leads_of_follow (fun _ _ _ => trivial) hs⟩
  have htriggers := triggers hreachable
  have hderives : s.Derives 0 "urn:g" := by
    refine ⟨hworking, ?_, ?_⟩ <;> rw [hjournal] <;> simp [Write.isAddData, Write.context]
  obtain ⟨asked, hasked, hopens⟩ := htriggers.opens ⟨0, 0⟩ hvalid hfree
  exact ⟨s, htriggers, hvalid, hfree, hderives, asked, hasked, hopens.mpr ⟨_, hderives⟩⟩

end

end Schedule

end GraphCommit
