import GraphCommit.Proofs.Lock.Manager
import GraphCommit.Proofs.Schedule

/-!
# Order among the operations of a schedule

What a connection is in the middle of fits what the lock has for its holder: while it waits its call
is in the lock's books, while it works it has the lock that the work needs, and between operations
it has no read lock.  A connection with writes in its journal has the write lock.  All of this is
`Orderly`; it holds of a new schedule and every step keeps it.

A step works on behalf of one connection.  What it does to the lock spares the other holders, so it
is enough to say what becomes of the one connection (`Orderly.turn_one`).
-/

namespace GraphCommit

open LockManager

/-- The writes that a derivation under way started from. -/
def Task.source? : Task → Option (List Write)
  | .waiting _ (.derive _ writes) => some writes
  | .ready (.derive _ writes) => some writes
  | _ => none

theorem Task.source?_told (kind : EventKind) (error : Option String) (rest : List Listener) :
    (Task.told kind error rest).source? = none := by
  cases rest <;> rfl

theorem Task.source?_answered {work : Work} {answer : Lock.Answer} {writes : List Write}
    (hsource : (work.answered answer).source? = some writes) :
    ∃ context, work = .derive context writes := by
  cases work with
  | write w => cases answer <;> simp [Work.answered, Task.source?, Work.failed] at hsource
  | select text => cases answer <;> simp [Work.answered, Task.source?, Work.failed] at hsource
  | derive context started =>
    cases answer with
    | refused => simp [Work.answered, Task.source?, Work.failed] at hsource
    | granted =>
      obtain rfl : started = writes := by simpa [Work.answered, Task.source?] using hsource
      exact ⟨context, rfl⟩
    | waiting ticket =>
      obtain rfl : started = writes := by simpa [Work.answered, Task.source?] using hsource
      exact ⟨context, rfl⟩

theorem Task.source?_failed (work : Work) (f : Fault) : (work.failed f).source? = none := by
  cases work <;> rfl

theorem Task.source?_ready (work : Work) (ticket : Nat) :
    (Task.ready work).source? = (Task.waiting ticket work).source? := by
  cases work <;> rfl

namespace LockManager

/-- What the lock must have for a holder in the middle of a task. -/
def Fits (m : LockManager) (h : Holder) : Task → Prop
  | .waiting ticket work => m.Awaits h ticket work.mode
  | .ready work => m.Holds h work.mode
  | .reading _ => m.Holds h .shared
  | _ => m.Rests h

variable {m n : LockManager} {h k : Holder} {task : Task}

/-- An operation of another holder leaves a task fitting. -/
theorem Fits.spared (hm : m.Coherent) (hspares : Spares h m n) (hk : k ≠ h)
    (hfits : m.Fits k task) : n.Fits k task := by
  cases task with
  | waiting ticket work => exact hspares.awaits hm hk hfits
  | ready work => exact hspares.holds hk hfits
  | reading result => exact hspares.holds hk hfits
  | idle => exact hspares.rests hk hfits
  | closing derived => exact hspares.rests hk hfits
  | telling kind error rest => exact hspares.rests hk hfits

/-- A writer has no read lock. -/
theorem Holds.rests (hm : m.Coherent) (hholds : m.Holds h .exclusive) : m.Rests h where
  quiet := hholds.quiet
  noRead := by
    intro hread
    have hwrite : ⟨h, .exclusive⟩ ∈ m.requests := (hholds.granted.elim id id).1
    exact absurd (hm.single.mode_unique hread hwrite) (by simp)

theorem fits_told (kind : EventKind) (error : Option String) (rest : List Listener)
    (hrests : m.Rests h) : m.Fits h (.told kind error rest) := by
  cases rest <;> exact hrests

/-- A call that waits no longer has returned. -/
theorem Awaits.returned {ticket : Nat} {mode : Lock.Mode} (hawaits : m.Awaits h ticket mode)
    (hreturned : m.isWaiting ticket = false) : m.Returned h ticket mode := by
  refine hawaits.resolve_left fun hcall => ?_
  have hwaits : m.isWaiting ticket = true := by
    simp only [isWaiting, List.any_eq_true]
    exact ⟨_, hcall, by simp⟩
  rw [hreturned] at hwaits
  contradiction

theorem Returned.fits {ticket : Nat} {work : Work} {f : Fault}
    (hreturned : m.Returned h ticket work.mode) :
    m.Fits h (if ticket ∈ m.gaveUp then work.failed f else .ready work) := by
  rcases hreturned.result with ⟨hstays, hgrants⟩ | ⟨hgave, hleft⟩
  · rw [if_neg hstays]
    exact ⟨hreturned.quiet, Or.inl hgrants⟩
  · rw [if_pos hgave]
    have hrests : m.Rests h := ⟨hreturned.quiet, fun hr => Lock.Queue.not_holds hleft hr rfl⟩
    cases work <;> exact hrests

/-- A resting holder that asks for a lock waits for it or has it. -/
theorem Rests.fits_answered (hm : m.Coherent) (hh : m.Rests h) (work : Work) :
    (m.lock h work.mode).2.Fits h (work.answered (m.lock h work.mode).1) := by
  cases hanswer : (m.lock h work.mode).1 with
  | granted => exact lock_granted hm hh hanswer
  | refused => exact absurd hanswer (lock_ne_refused hm hh)
  | waiting ticket => exact lock_waiting hm hh hanswer

/-- Only a connection that waits for its call can find it given up. -/
theorem Fits.expired {call : Lock.Call} (hm : m.Coherent) (hcall : call ∈ m.waiting)
    (hfits : m.Fits call.holder task) : (m.expire call).Fits call.holder task := by
  have hbusy : ¬ m.IsQuiet call.holder := fun hquiet => hquiet call hcall rfl
  cases task with
  | waiting ticket work =>
    rcases hfits with hwaits | hreturned
    · have hsame := List.inj_on_of_nodup_map hm.callers hcall hwaits rfl
      have hticket : call.ticket = ticket := congrArg Lock.Call.ticket hsame
      have hmode : call.mode = work.mode := congrArg Lock.Call.mode hsame
      right
      rw [← hticket, ← hmode]
      exact expire_returned hm hcall
    · exact absurd hreturned.quiet hbusy
  | ready work => exact absurd (show m.Holds _ _ from hfits).quiet hbusy
  | reading result => exact absurd (show m.Holds _ _ from hfits).quiet hbusy
  | idle => exact absurd (show m.Rests _ from hfits).quiet hbusy
  | closing derived => exact absurd (show m.Rests _ from hfits).quiet hbusy
  | telling kind error rest => exact absurd (show m.Rests _ from hfits).quiet hbusy

end LockManager

namespace Core

variable {S : Type}

def journal (k : Core S) (i : Nat) : Journal := (k.connection i).participant.journal

/-- Tasks, lock and journals agree with each other. -/
structure Orderly (k : Core S) (tasks : Nat → Task) : Prop where
  coherent : k.locks.Coherent
  holders : ∀ i j, i < k.size → j < k.size → k.holder i = k.holder j → i = j
  registered : ∀ i, i < k.size → (k.holder i).number ≤ k.locks.registered
  absent : ∀ i, k.size ≤ i → tasks i = .idle
  fits : ∀ i, i < k.size → k.locks.Fits (k.holder i) (tasks i)
  /-- Who has written has the write lock. -/
  writes : ∀ i, (k.journal i).writes ≠ [] → k.locks.requests.Grants (k.holder i) .exclusive
  /-- A derivation under way started from what is in the journal. -/
  source : ∀ i writes, (tasks i).source? = some writes →
    writes = (k.journal i).writes ∧ writes ≠ []

variable {k k' : Core S} {tasks tasks' : Nat → Task} {i j : Nat}

theorem journal_of_ge (hi : k.size ≤ i) : k.journal i = Journal.empty :=
  congrArg (fun c : Connection => c.participant.journal) (connection_of_ge hi)

theorem Orderly.lt_of_task (ho : k.Orderly tasks) (htask : tasks i ≠ .idle) : i < k.size := by
  by_contra hi
  exact htask (ho.absent i (Nat.le_of_not_lt hi))

theorem Orderly.lt_of_writes (hwrites : (k.journal i).writes ≠ []) : i < k.size := by
  by_contra hi
  rw [journal_of_ge (Nat.le_of_not_lt hi)] at hwrites
  exact hwrites rfl

/-- The order depends on the lock, the holders, the journals and the tasks alone. -/
theorem Orderly.of_eq (ho : k.Orderly tasks) (hlocks : k'.locks = k.locks)
    (hsize : k'.size = k.size) (hholder : ∀ j, k'.holder j = k.holder j)
    (hjournal : ∀ j, k'.journal j = k.journal j) : k'.Orderly tasks where
  coherent := hlocks ▸ ho.coherent
  holders := by
    intro a b ha hb heq
    rw [hsize] at ha hb
    rw [hholder, hholder] at heq
    exact ho.holders a b ha hb heq
  registered := by
    intro a ha
    rw [hsize] at ha
    rw [hholder, hlocks]
    exact ho.registered a ha
  absent := by
    intro a ha
    rw [hsize] at ha
    exact ho.absent a ha
  fits := by
    intro a ha
    rw [hsize] at ha
    rw [hholder, hlocks]
    exact ho.fits a ha
  writes := by
    intro a ha
    rw [hjournal] at ha
    rw [hholder, hlocks]
    exact ho.writes a ha
  source := by
    intro a writes ha
    rw [hjournal]
    exact ho.source a writes ha

/-- A step on behalf of one connection: the lock spares the others, and the connection itself comes
to a task that fits. -/
theorem Orderly.turn_one (ho : k.Orderly tasks) (hi : i < k.size) (hsize : k'.size = k.size)
    (hholder : ∀ j, k'.holder j = k.holder j) (hjournal : ∀ j, j ≠ i → k'.journal j = k.journal j)
    (htasks : ∀ j, j ≠ i → tasks' j = tasks j) (hcoherent : k'.locks.Coherent)
    (hspares : Spares (k.holder i) k.locks k'.locks)
    (hfits : k'.locks.Fits (k.holder i) (tasks' i))
    (hwrites : (k'.journal i).writes ≠ [] → k'.locks.requests.Grants (k.holder i) .exclusive)
    (hsource : ∀ writes, (tasks' i).source? = some writes →
      writes = (k'.journal i).writes ∧ writes ≠ []) : k'.Orderly tasks' where
  coherent := hcoherent
  holders := by
    intro a b ha hb heq
    rw [hsize] at ha hb
    rw [hholder, hholder] at heq
    exact ho.holders a b ha hb heq
  registered := by
    intro a ha
    rw [hsize] at ha
    rw [hholder]
    exact Nat.le_trans (ho.registered a ha) hspares.registered
  absent := by
    intro a ha
    rw [hsize] at ha
    have hne : a ≠ i := by omega
    rw [htasks a hne]
    exact ho.absent a ha
  fits := by
    intro a ha
    rw [hsize] at ha
    rw [hholder]
    by_cases hai : a = i
    · rw [hai]
      exact hfits
    -- holders differ, so the lock spares every other connection
    · rw [htasks a hai]
      exact (ho.fits a ha).spared ho.coherent hspares fun heq => hai (ho.holders a i ha hi heq)
  writes := by
    intro a ha
    rw [hholder]
    by_cases hai : a = i
    · subst hai
      exact hwrites ha
    · rw [hjournal a hai] at ha
      have hsize' := Orderly.lt_of_writes ha
      exact hspares.grants _ _ (fun heq => hai (ho.holders a i hsize' hi heq)) (ho.writes a ha)
  source := by
    intro a writes ha
    by_cases hai : a = i
    · subst hai
      exact hsource writes ha
    · rw [htasks a hai] at ha
      rw [hjournal a hai]
      exact ho.source a writes ha

/-- A step that comes to another task and touches nothing else. -/
theorem Orderly.update_task {task : Task} (ho : k.Orderly tasks) (hi : i < k.size)
    (hfits : k.locks.Fits (k.holder i) task)
    (hsource : ∀ writes, task.source? = some writes →
      writes = (k.journal i).writes ∧ writes ≠ []) :
    k.Orderly (Function.update tasks i task) := by
  refine ho.turn_one hi rfl (fun _ => rfl) (fun _ _ => rfl)
    (fun j hj => Function.update_of_ne hj _ _) ho.coherent (Spares.refl _ _) ?_ (ho.writes i) ?_
  · rw [Function.update_self]
    exact hfits
  · rw [Function.update_self]
    exact hsource

/-- A connection at rest may be cleaned by anybody. -/
theorem Orderly.clean [Backend S] (ho : k.Orderly tasks) (hi : i < k.size)
    (hrests : k.locks.Rests (k.holder i)) (hsource : (tasks i).source? = none)
    (hfits : ∀ m : LockManager, m.Rests (k.holder i) → m.Fits (k.holder i) (tasks i)) :
    (k.clean i).Orderly tasks := by
  refine ho.turn_one hi size_clean
    (fun _ => holder_clean)
    (fun j hj => congrArg (fun c : Connection => c.participant.journal) (connection_clean_ne hj))
    (fun _ _ => rfl) (unlockAll_coherent ho.coherent hrests.quiet)
    (unlockAll_spares ho.coherent hrests.quiet) (hfits _ (unlockAll_rests hrests.quiet)) ?_ ?_
  · intro hwrites
    rw [journal, connection_clean_self hi] at hwrites
    exact absurd rfl hwrites
  · intro writes hnone
    rw [hsource] at hnone
    contradiction

/-- A new connection has a holder of its own, which is at rest. -/
theorem Orderly.enlist {client : ClientId} {strategy : Strategy} {derives : Bool}
    (ho : k.Orderly tasks) : (k.enlist client strategy derives).Orderly tasks := by
  -- holders are numbered as they are registered: an old one has a smaller number than the new one
  have hnew : (k.enlist client strategy derives).holder k.size = k.locks.register.1 := by
    rw [holder, connection_enlist_self]
  have hold : ∀ i, i < k.size → (k.enlist client strategy derives).holder i = k.holder i :=
    fun i hi => congrArg Connection.holder (connection_enlist_of_lt hi)
  have hne : ∀ i, i < k.size → k.holder i ≠ k.locks.register.1 := by
    rintro i hi heq
    have hle := ho.registered i hi
    rw [heq] at hle
    exact Nat.not_succ_le_self _ hle
  have hspares := register_spares k.locks.register.1 k.locks
  have hcases : ∀ i, i < (k.enlist client strategy derives).size → i < k.size ∨ i = k.size := by
    intro i hi
    rw [size_enlist] at hi
    omega
  -- what is said of an old connection it keeps, and the new one rests and has written nothing
  refine ⟨register_coherent ho.coherent, ?_, ?_, ?_, ?_, ?_, ?_⟩
  · intro i j hi hj heq
    rcases hcases i hi with hi | rfl <;> rcases hcases j hj with hj | rfl
    · rw [hold i hi, hold j hj] at heq
      exact ho.holders i j hi hj heq
    · rw [hold i hi, hnew] at heq
      exact absurd heq (hne i hi)
    · rw [hold j hj, hnew] at heq
      exact absurd heq.symm (hne j hj)
    · rfl
  · intro i hi
    rcases hcases i hi with hi | rfl
    · rw [hold i hi]
      exact Nat.le_trans (ho.registered i hi) hspares.registered
    · rw [hnew]
      exact Nat.le_refl _
  · intro i hi
    rw [size_enlist] at hi
    exact ho.absent i (by omega)
  · intro i hi
    rcases hcases i hi with hi | rfl
    · rw [hold i hi]
      exact (ho.fits i hi).spared ho.coherent hspares (hne i hi)
    · rw [hnew, ho.absent k.size (Nat.le_refl _)]
      exact register_rests ho.coherent
  · intro i hwrites
    rcases hcases i (Orderly.lt_of_writes hwrites) with hi | rfl
    · rw [journal, connection_enlist_of_lt hi] at hwrites
      rw [hold i hi]
      exact hspares.grants _ _ (hne i hi) (ho.writes i hwrites)
    · rw [journal, connection_enlist_self] at hwrites
      exact absurd rfl hwrites
  · intro i writes hsource
    have hi : i < k.size := ho.lt_of_task fun hidle => by simp [hidle, Task.source?] at hsource
    rw [journal, connection_enlist_of_lt hi]
    exact ho.source i writes hsource

/-- A connection at rest calls for the lock. -/
theorem Orderly.lock {work : Work} (ho : k.Orderly tasks) (hi : i < k.size)
    (hrests : k.locks.Rests (k.holder i))
    (hderive : ∀ context writes, work = .derive context writes →
      writes = (k.journal i).writes ∧ writes ≠ []) :
    Orderly { k with locks := (k.locks.lock (k.holder i) work.mode).2 }
      (Function.update tasks i (work.answered (k.locks.lock (k.holder i) work.mode).1)) := by
  refine ho.turn_one hi rfl (fun _ => rfl) (fun _ _ => rfl)
    (fun j hj => Function.update_of_ne hj _ _)
    (lock_coherent ho.coherent hrests.quiet (ho.registered i hi) work.mode)
    (lock_spares ho.coherent hrests.quiet work.mode) ?_ ?_ ?_
  · rw [Function.update_self]
    exact hrests.fits_answered ho.coherent work
  · exact fun hwrites => lock_keeps_exclusive ho.coherent hrests (ho.writes i hwrites)
  · rw [Function.update_self]
    intro writes hsource
    obtain ⟨context, rfl⟩ := Task.source?_answered hsource
    exact hderive context writes rfl

/-- A query has ended, and its lock is released. -/
theorem Orderly.unlockRead (ho : k.Orderly tasks) (hi : i < k.size)
    (hholds : k.locks.Holds (k.holder i) .shared) :
    Orderly { k with locks := k.locks.unlockRead (k.holder i) }
      (Function.update tasks i .idle) := by
  have hquiet := hholds.quiet
  refine ho.turn_one hi rfl (fun _ => rfl) (fun _ _ => rfl)
    (fun j hj => Function.update_of_ne hj _ _) (unlockRead_coherent ho.coherent hquiet)
    (unlockRead_spares ho.coherent hquiet) ?_ (fun hwrites => ?_) ?_
  · rw [Function.update_self]
    exact unlockRead_rests ho.coherent hquiet
  · have hgrants := ho.writes i hwrites
    rw [unlockRead_of_exclusive ho.coherent.single hgrants.1]
    exact hgrants
  · rw [Function.update_self]
    simp [Task.source?]

/-- A write is carried out under the write lock, which stays. -/
theorem Orderly.perform [Backend S] {w : Write} (ho : k.Orderly tasks) (hi : i < k.size)
    (hholds : k.locks.Holds (k.holder i) .exclusive) :
    (k.perform i w).Orderly (Function.update tasks i .idle) := by
  refine ho.turn_one hi size_perform (fun _ => holder_perform)
    (fun j hj => congrArg (fun c : Connection => c.participant.journal) (connection_perform_ne hj))
    (fun j hj => Function.update_of_ne hj _ _) ?_ ?_ ?_ (fun _ => ?_) ?_
  · rw [locks_perform]
    exact ho.coherent
  · rw [locks_perform]
    exact Spares.refl _ _
  · rw [Function.update_self, locks_perform]
    exact Holds.rests ho.coherent hholds
  · rw [locks_perform]
    exact hholds.granted.elim id id
  · rw [Function.update_self]
    simp [Task.source?]

/-- A waiting call whose time is over has its caller go on. -/
theorem Orderly.expire {call : Lock.Call} (ho : k.Orderly tasks)
    (hcall : call ∈ k.locks.waiting) :
    Orderly { k with locks := k.locks.expire call } tasks := by
  have hspares := expire_spares ho.coherent hcall
  refine ⟨expire_coherent ho.coherent hcall, ho.holders,
    fun i hi => Nat.le_trans (ho.registered i hi) hspares.registered, ho.absent, ?_, ?_, ho.source⟩
  · intro i hi
    by_cases hown : k.holder i = call.holder
    · have hfits := ho.fits i hi
      rw [hown] at hfits
      change (k.locks.expire call).Fits (k.holder i) _
      rw [hown]
      exact hfits.expired ho.coherent hcall
    · exact (ho.fits i hi).spared ho.coherent hspares hown
  · intro i hwrites
    have hgrants := ho.writes i hwrites
    refine hspares.grants _ _ (fun hown => ?_) hgrants
    -- a writer is let through, and so none of its calls waits
    have hlets : k.locks.lets call = true := (hown ▸ hgrants).free_of_exclusive
    rw [ho.coherent.blocked call hcall] at hlets
    contradiction

end Core

namespace Schedule

variable {S : Type} [Backend S] {s s' : Schedule S} {m : Move}

/-- Every turn keeps the order. -/
theorem Turn.orderly {k : Core S} {tasks : Nat → Task} (hturn : Turn s m k tasks)
    (ho : s.core.Orderly s.tasks) : k.Orderly tasks := by
  -- what a connection is in the middle of says what the lock has for it
  have hfits : ∀ {i task}, s.tasks i = task → task ≠ .idle →
      i < s.core.size ∧ s.core.locks.Fits (s.core.holder i) task := by
    rintro i _ rfl hbusy
    have hi := ho.lt_of_task hbusy
    exact ⟨hi, ho.fits i hi⟩
  have hfree : ∀ {i}, s.IsFree i → i < s.core.size ∧ s.core.locks.Rests (s.core.holder i) := by
    rintro i ⟨hi, hidle⟩
    have hrests := ho.fits i hi
    rw [hidle] at hrests
    exact ⟨hi, hrests⟩
  have hcleaned : ∀ {i}, s.IsFree i → (s.core.clean i).Orderly s.tasks := by
    intro i hidle
    obtain ⟨hi, hrests⟩ := hfree hidle
    exact ho.clean hi hrests (by simp [hidle.2, Task.source?])
      (by intro m hm; rw [hidle.2]; exact hm)
  cases hturn with
  | createdNone => exact ho.of_eq rfl rfl (fun _ => rfl) fun _ => rfl
  | created strategy derives hclient =>
    have hcreate : s.core.create.Orderly s.tasks := ho.of_eq rfl rfl (fun _ => rfl) fun _ => rfl
    exact hcreate.enlist
  | @kept _ i f hholder hparticipant =>
    exact ho.of_eq rfl Core.size_update
      (fun _ => Core.connection_update_keeps Connection.holder hholder)
      fun _ => congrArg Participant.journal
        (Core.connection_update_keeps Connection.participant hparticipant)
  | @resting _ i task hi htask =>
    have hrests : i < s.core.size ∧ s.core.locks.Rests (s.core.holder i) := by
      rcases hi with hi | ⟨derived, hclosing⟩
      · exact hfree hi
      · exact hfits hclosing (by simp)
    rcases htask with ⟨derived, rfl⟩ | ⟨kind, error, rest, rfl⟩
    · exact ho.update_task hrests.1 hrests.2 (by simp [Task.source?])
    · exact ho.update_task hrests.1 (fits_told kind error rest hrests.2)
        (by simp [Task.source?_told])
  | @asked _ i work hidle hderive =>
    obtain ⟨hi, hrests⟩ := hfree hidle
    exact ho.lock hi hrests hderive
  | expired hcall => exact ho.expire hcall
  -- the call has returned: it was let through, or it gave up and the task is over
  | @proceeded _ i ticket work htask hreturned =>
    obtain ⟨hi, hawaits⟩ := hfits htask (by simp)
    refine ho.update_task hi (Awaits.returned hawaits hreturned).fits fun writes hsource => ?_
    refine ho.source i writes ?_
    rw [htask]
    split at hsource
    · rw [Task.source?_failed] at hsource
      contradiction
    · exact (Task.source?_ready work ticket).symm.trans hsource
  | @wrote i w htask =>
    obtain ⟨hi, hholds⟩ := hfits htask (by simp)
    exact ho.perform hi hholds
  | @queried i text result htask =>
    obtain ⟨hi, hholds⟩ := hfits htask (by simp)
    have hstores : (s.core.query i text).Orderly s.tasks :=
      ho.of_eq rfl rfl (fun _ => rfl) fun _ => rfl
    exact hstores.update_task hi hholds (by simp [Task.source?])
  | @derived i context writes o result htask ho' =>
    obtain ⟨hi, hholds⟩ := hfits htask (by simp)
    refine Core.Orderly.update_task ?_ hi (Holds.rests ho.coherent hholds) (by simp [Task.source?])
    exact ho.of_eq rfl rfl (fun _ => rfl) fun _ => rfl
  | @unlocked _ i result htask =>
    obtain ⟨hi, hholds⟩ := hfits htask (by simp)
    exact ho.unlockRead hi hholds
  | @told _ i kind error l rest htask =>
    obtain ⟨hi, hrests⟩ := hfits htask (by simp)
    exact ho.update_task hi (fits_told kind error rest hrests) (by simp [Task.source?_told])
  -- the listener cleans a connection that rests: the one that tells it or an idle one
  | @toldCleaning i other kind error l rest htask hcleans hother =>
    obtain ⟨hi, hrests⟩ := hfits htask (by simp)
    have hclean : (s.core.clean other).Orderly s.tasks := by
      rcases hother with rfl | hidle
      · exact ho.clean hi hrests (by simp [htask, Task.source?])
          (by intro m hm; rw [htask]; exact hm)
      · exact hcleaned hidle
    have hi' : i < (s.core.clean other).size := by
      rw [Core.size_clean]
      exact hi
    have hrests' := hclean.fits i hi'
    rw [htask] at hrests'
    exact hclean.update_task hi' (fits_told kind error rest hrests') (by simp [Task.source?_told])
  | @coordinated i command p t hi hobeys =>
    refine ho.of_eq rfl Core.size_enact (fun _ => Core.holder_enact) fun j => ?_
    by_cases hij : j = i
    · subst hij
      rw [Core.journal, Core.connection_enact_self hi]
      exact hobeys.keeps.2.2
    · rw [Core.journal, Core.connection_enact_ne hij]
      rfl
  | cleaned hidle => exact hcleaned hidle
  | destroyed hfree => exact ho.of_eq rfl rfl (fun _ => rfl) fun _ => rfl

/-- Order holds at any time. -/
theorem Reachable.orderly (hs : s.Reachable) : s.core.Orderly s.tasks := by
  obtain ⟨s₀, hnew, hrun⟩ := hs
  induction hrun with
  | refl =>
    have hlocks : s₀.core.locks = { timeout := s₀.connector.locks.timeout } := hnew.locks
    have hsize : s₀.core.size = 0 := hnew.size
    refine ⟨?_, ?_, ?_, ?_, ?_, ?_, ?_⟩
    · rw [hlocks]
      constructor <;> simp [Lock.Queue.IsSingle]
    · intro i j hi
      omega
    · intro i hi
      omega
    · intro i _
      rw [hnew.tasks]
    · intro i hi
      omega
    · intro i hwrites
      have hi := Core.Orderly.lt_of_writes hwrites
      omega
    · intro i writes hsource
      rw [hnew.tasks] at hsource
      simp [Task.source?] at hsource
  | tail hrun hallowed hstep ih => exact hstep.turn.orderly ih

end Schedule

end GraphCommit
