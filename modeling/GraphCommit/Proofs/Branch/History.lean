import GraphCommit.Proofs.Branch.Adoption

/-!
# The past of a branch

A participant keeps an identifier, a flag, a phase and a journal.  The past of a connection keeps
more: every command that was accepted, every write that went through and every cleaning, in the
order in which they came.  A command that is refused and a write that fails leave no event.

`Past.Makes` says what a past makes of a branch and of its journal, and `Schedule.HasPast` which
past a connection has in a run.  What the participant keeps is then found in the past again: the
adopted identifier, the success flag, how the branch was ended and whether something was written.
-/

namespace GraphCommit

namespace Branch

/-- What leaves a trace in a connection. -/
inductive Event where
  | accepted (command : Command)
  | wrote (w : Write)
  | cleaned
  deriving DecidableEq, Repr

/-- The events of a connection, the oldest first. -/
abbrev Past := List Event

namespace Past

/-- What a past makes of a branch and of its journal. -/
inductive Makes : Past → Branch → Journal → Prop
  | new : Makes [] idle Journal.empty
  | accepted {past : Past} {b moved : Branch} {j : Journal} {command : Command}
      (hmakes : Makes past b j) (haccepts : b.Accepts j.isEmpty command moved) :
      Makes (past ++ [.accepted command]) moved j
  | wrote {past : Past} {b : Branch} {j : Journal} (w : Write) (hmakes : Makes past b j) :
      Makes (past ++ [.wrote w]) b (j.append w)
  | cleaned {past : Past} {b : Branch} {j : Journal} (hmakes : Makes past b j) :
      Makes (past ++ [.cleaned]) idle Journal.empty

/-! ## What can be said of a past -/

/-- An event of some kind has happened, and since then none that ends what it began.  The kind may
depend on what was there before the event. -/
def Since (begins : Past → Event → Prop) (ends : Event → Prop) (past : Past) : Prop :=
  ∃ before e after, past = before ++ e :: after ∧ begins before e ∧ ∀ later ∈ after, ¬ ends later

variable {begins : Past → Event → Prop} {ends : Event → Prop} {past : Past} {e : Event} {x : Xid}
  {command : Command}

@[simp] theorem not_since_nil : ¬ Since begins ends [] := by
  rintro ⟨before, e, after, hsplit, -⟩
  simp at hsplit

/-- The last event begins it, or it has begun and the last event does not end it. -/
theorem since_concat :
    Since begins ends (past ++ [e]) ↔ begins past e ∨ Since begins ends past ∧ ¬ ends e := by
  constructor
  · rintro ⟨before, first, after, hsplit, hbegins, hafter⟩
    rcases concat_eq_append_cons.mp hsplit with ⟨rfl, rfl, rfl⟩ | ⟨rest, rfl, rfl⟩
    · exact Or.inl hbegins
    · have hrest : ∀ later ∈ rest, ¬ ends later :=
        fun later hlater => hafter later (List.mem_append_left _ hlater)
      exact Or.inr ⟨⟨before, first, rest, rfl, hbegins, hrest⟩, hafter e (by simp)⟩
  · rintro (hbegins | ⟨⟨before, first, after, rfl, hbegins, hafter⟩, hends⟩)
    · exact ⟨past, e, [], rfl, hbegins, by simp⟩
    · refine ⟨before, first, after ++ [e], by simp, hbegins, ?_⟩
      intro later hlater
      rcases List.mem_append.mp hlater with hold | hlast
      · exact hafter later hold
      · rwa [List.mem_singleton.mp hlast]

/-- A branch was adopted, and the connection was not cleaned since. -/
def HasAdopted (past : Past) (x : Xid) : Prop :=
  Since (fun _ e => e = .accepted (.start x Flags.none)) (fun e => e = .cleaned) past

/-- The adopted branch was ended with success, and since then it was not ended with failure. -/
def HasMarked (past : Past) (x : Xid) : Prop :=
  Since (fun before e => HasAdopted before x ∧ e = .accepted (.finish x Flags.success))
    (fun e => e = .cleaned ∨ e = .accepted (.finish x Flags.fail)) past

/-- A write went through, and the connection was not cleaned since. -/
def HasWritten (past : Past) : Prop :=
  Since (fun _ e => ∃ w, e = .wrote w) (fun e => e = .cleaned) past

/-- A command was the last one to be accepted, and the connection was not cleaned since. -/
def LastAccepted (past : Past) (command : Command) : Prop :=
  Since (fun _ e => e = .accepted command) (fun e => e = .cleaned ∨ ∃ d, e = .accepted d) past

theorem hasAdopted_concat : HasAdopted (past ++ [e]) x ↔
    e = .accepted (.start x Flags.none) ∨ HasAdopted past x ∧ e ≠ .cleaned :=
  since_concat

theorem hasMarked_concat : HasMarked (past ++ [e]) x ↔
    (HasAdopted past x ∧ e = .accepted (.finish x Flags.success)) ∨
    HasMarked past x ∧ ¬ (e = .cleaned ∨ e = .accepted (.finish x Flags.fail)) :=
  since_concat

theorem hasWritten_concat : HasWritten (past ++ [e]) ↔
    (∃ w, e = .wrote w) ∨ HasWritten past ∧ e ≠ .cleaned :=
  since_concat

theorem lastAccepted_concat : LastAccepted (past ++ [e]) command ↔
    e = .accepted command ∨
    LastAccepted past command ∧ ¬ (e = .cleaned ∨ ∃ d, e = .accepted d) :=
  since_concat

end Past

/-! ## What an accepted command makes of a branch -/

variable {b moved : Branch} {wroteNothing : Bool} {command : Command} {x : Xid}

/-- A branch is adopted after a command if it was before or if the command adopts it. -/
theorem Accepts.xid_iff (hb : b.IsSingle) (haccepts : b.Accepts wroteNothing command moved) :
    moved.xid = some x ↔ command = .start x Flags.none ∨ b.xid = some x := by
  cases haccepts with
  | @adopt y hphase =>
    have hnone := hb.idle_iff.mp hphase
    simp [hnone]
  | @rejoin y flags hflags hxid =>
    have hnone : flags ≠ Flags.none := by rcases hflags with rfl | rfl <;> decide
    simp [hnone]
  | _ => simp [committed, rolledBack]

/-- A branch is marked for a commit after a command if the command ends it with success, or if it
was marked before and the command does not end it with failure. -/
theorem Accepts.marked_iff (hb : b.IsSingle) (haccepts : b.Accepts wroteNothing command moved) :
    moved.xid = some x ∧ moved.success = true ↔
      (b.xid = some x ∧ command = .finish x Flags.success) ∨
      (b.xid = some x ∧ b.success = true) ∧ command ≠ .finish x Flags.fail := by
  have hfail : Flags.success ≠ Flags.fail := by decide
  have hsuspend : Flags.suspend ≠ Flags.success ∧ Flags.suspend ≠ Flags.fail := by decide
  cases haccepts with
  | adopt hphase => simp [hb.idle_iff.mp hphase]
  | @succeed y hxid =>
    by_cases hxy : y = x
    · simp [hxid, hxy]
    · simp [hxid, hxy]
  | @fail y hxid =>
    by_cases hxy : y = x
    · simp [hxid, hxy, hfail.symm]
    · simp [hxid, hxy]
  | suspend hxid => simp [hsuspend]
  | _ => simp [committed, rolledBack]

/-- The flags that a branch is ended with. -/
def ending (success : Bool) : Flags := if success then Flags.success else Flags.fail

/-- A branch is ended after a command if the command ends it. -/
theorem Accepts.ended_iff {success : Bool} (haccepts : b.Accepts wroteNothing command moved) :
    (moved.phase = .ended ∧ moved.xid = some x ∧ moved.success = success) ↔
      command = .finish x (ending success) := by
  have hfail : Flags.success ≠ Flags.fail := by decide
  have hsuspend : Flags.suspend ≠ ending success := by cases success <;> decide
  cases haccepts with
  | @succeed y hxid => cases success <;> simp [hxid, ending, hfail]
  | @fail y hxid => cases success <;> simp [hxid, ending, hfail.symm]
  | suspend hxid => simp [hsuspend]
  | _ => simp [committed, rolledBack]

namespace Past

/-! ## What a past makes of a branch -/

variable {past : Past} {b : Branch} {j : Journal} {x : Xid}

theorem Makes.isSingle (hmakes : Makes past b j) : b.IsSingle := by
  induction hmakes with
  | new => exact isSingle_idle
  | accepted hmakes haccepts ih => exact haccepts.isSingle
  | wrote w hmakes ih => exact ih
  | cleaned hmakes ih => exact isSingle_idle

theorem Makes.xid_iff (hmakes : Makes past b j) : b.xid = some x ↔ HasAdopted past x := by
  induction hmakes with
  | new => simp [idle, HasAdopted]
  | accepted hmakes haccepts ih =>
    rw [haccepts.xid_iff hmakes.isSingle, hasAdopted_concat, ih]
    simp
  | wrote w hmakes ih =>
    rw [hasAdopted_concat, ih]
    simp
  | cleaned hmakes ih =>
    rw [hasAdopted_concat]
    simp [idle]

theorem Makes.marked_iff (hmakes : Makes past b j) :
    b.xid = some x ∧ b.success = true ↔ HasMarked past x := by
  induction hmakes with
  | new => simp [idle, HasMarked]
  | accepted hmakes haccepts ih =>
    rw [haccepts.marked_iff hmakes.isSingle, hasMarked_concat, ih, hmakes.xid_iff]
    simp
  | wrote w hmakes ih =>
    rw [hasMarked_concat, ih]
    simp
  | cleaned hmakes ih =>
    rw [hasMarked_concat]
    simp [idle]

theorem Makes.written_iff (hmakes : Makes past b j) : j.writes ≠ [] ↔ HasWritten past := by
  induction hmakes with
  | new => simp [Journal.empty, HasWritten]
  | accepted hmakes haccepts ih =>
    rw [hasWritten_concat, ih]
    simp
  | wrote w hmakes ih =>
    rw [hasWritten_concat]
    simp
  | cleaned hmakes ih =>
    rw [hasWritten_concat]
    simp [Journal.empty]

/-- A branch that is ended was ended by the last command that was accepted. -/
theorem Makes.ended_iff {success : Bool} (hmakes : Makes past b j) :
    (b.phase = .ended ∧ b.xid = some x ∧ b.success = success) ↔
      LastAccepted past (.finish x (ending success)) := by
  induction hmakes with
  | new => simp [idle, LastAccepted]
  | accepted hmakes haccepts ih =>
    rw [haccepts.ended_iff, lastAccepted_concat]
    simp
  | wrote w hmakes ih =>
    rw [lastAccepted_concat, ih]
    simp
  | cleaned hmakes ih =>
    rw [lastAccepted_concat]
    simp [idle]

end Past

end Branch

namespace Schedule

open Branch

variable {S : Type} {s s' t : Schedule S} {m : Move} {i : Nat} {past : Past}

/-! ## The events of a run -/

/-- The connection that a move cleans. -/
def cleaned? (s : Schedule S) : Move → Option Nat
  | .cleanup j => some j
  | .tell j =>
    match s.tasks j with
    | .telling _ _ (l :: _) => l.cleans
    | _ => none
  | _ => none

theorem cleaned?_eq_some : s.cleaned? m = some i ↔ s.Cleans i m := by
  cases m with
  | cleanup j => simp [cleaned?, Cleans]
  | tell j =>
    unfold cleaned? Cleans
    dsimp only
    split
    · next kind error l rest htask =>
      exact (cleans_tell htask).symm
    · next hother =>
      simp only [reduceCtorEq, false_iff]
      rintro ⟨kind, error, l, rest, htask, -⟩
      exact hother kind error l rest htask
  | _ => simp [cleaned?, Cleans]

instance (s : Schedule S) (i : Nat) (m : Move) : Decidable (s.Cleans i m) :=
  decidable_of_iff _ cleaned?_eq_some

variable [Backend S]

/-- The write that a connection would carry out, if it would go through. -/
def written? (s : Schedule S) (i : Nat) : Option Write :=
  match s.tasks i with
  | .ready (.write w) =>
    if (Backend.act s.core.stores (s.connection i).client (.write w)).result.isOk then some w
    else none
  | _ => none

/-- What a move is for a connection.  A connection that does not exist has no events. -/
def event? (s : Schedule S) (i : Nat) (m : Move) : Option Event :=
  if i < s.size then
    match m with
    | .coordinate j command =>
      if j = i ∧ (s.answer i command).isOk then some (.accepted command) else none
    | .carryOut j => if j = i then (s.written? i).map .wrote else none
    | m => if s.Cleans i m then some .cleaned else none
  else none

/-- The past of a connection in a run from a new schedule. -/
inductive HasPast (i : Nat) : Schedule S → Past → Prop
  | new {s : Schedule S} (hnew : s.IsNew) : HasPast i s []
  | step {s s' : Schedule S} {m : Move} {past : Past} (hpast : HasPast i s past)
      (hstep : Step s m s') : HasPast i s' (past ++ (s.event? i m).toList)

theorem HasPast.reachable (hpast : s.HasPast i past) : s.Reachable := by
  induction hpast with
  | new hnew => exact ⟨_, hnew, .refl⟩
  | step hpast hstep ih =>
    obtain ⟨s₀, hnew, hrun⟩ := ih
    exact ⟨s₀, hnew, hrun.tail trivial hstep⟩

/-- Whatever a run leads to has a past, so what holds of all pasts holds in every run. -/
theorem Reachable.exists_past (hs : s.Reachable) (i : Nat) : ∃ past, s.HasPast i past := by
  obtain ⟨s₀, hnew, hrun⟩ := hs
  induction hrun with
  | refl => exact ⟨[], .new hnew⟩
  | tail hrun hallowed hstep ih =>
    obtain ⟨past, hpast⟩ := ih
    exact ⟨_, hpast.step hstep⟩

/-- What some moves are for a connection, one after another. -/
def events (s : Schedule S) (i : Nat) : List Move → Past
  | [] => []
  | m :: rest =>
    (s.event? i m).toList ++ match s.next m with
      | some s' => s'.events i rest
      | none => []

theorem HasPast.follow {moves : List Move} (hpast : s.HasPast i past)
    (hfollow : s.follow moves = some t) : t.HasPast i (past ++ s.events i moves) := by
  induction moves generalizing s past with
  | nil =>
    obtain rfl : s = t := Option.some.inj hfollow
    simpa [events] using hpast
  | cons m rest ih =>
    obtain ⟨u, hnext, hrest⟩ := Option.bind_eq_some_iff.mp
      (show (s.next m).bind (fun u => u.follow rest) = some t from hfollow)
    have hstep := ih (hpast.step (step_iff.mpr hnext)) hrest
    simpa [events, hnext] using hstep

/-- The past of a connection after some moves of a new schedule. -/
theorem hasPast_of_follow {stores : S} {moves : List Move}
    (hfollow : (fresh stores).follow moves = some t) :
    t.HasPast i ((fresh stores).events i moves) :=
  (HasPast.new (isNew_fresh stores)).follow hfollow

/-! ## What the events of a step do -/

theorem written?_eq_some {w : Write} : s.written? i = some w ↔ s.tasks i = .ready (.write w) ∧
    (Backend.act s.core.stores (s.connection i).client (.write w)).result = .ok () := by
  unfold written?
  split
  · next v htask =>
    rw [htask, Option.ite_none_right_eq_some, Effect.isOk_iff]
    constructor
    · rintro ⟨⟨⟨⟩, hok⟩, ⟨⟩⟩
      exact ⟨rfl, hok⟩
    · rintro ⟨⟨⟩, hok⟩
      exact ⟨⟨_, hok⟩, rfl⟩
  · next hother =>
    simp only [reduceCtorEq, false_iff, not_and]
    intro htask
    exact absurd htask (hother w)

theorem event?_eq_some {e : Event} : s.event? i m = some e ↔ i < s.size ∧
    ((∃ command, m = .coordinate i command ∧ (∃ vote, s.answer i command = .ok vote) ∧
      e = .accepted command) ∨
    (∃ w, m = .carryOut i ∧ s.written? i = some w ∧ e = .wrote w) ∨
    s.Cleans i m ∧ e = .cleaned) := by
  unfold event?
  rw [Option.ite_none_right_eq_some]
  refine and_congr_right fun hi => ?_
  cases m with
  | coordinate j command =>
    rw [Option.ite_none_right_eq_some, Effect.isOk_iff]
    constructor
    · rintro ⟨⟨rfl, hanswer⟩, ⟨⟩⟩
      exact Or.inl ⟨command, rfl, hanswer, rfl⟩
    · rintro (⟨d, ⟨⟩, hanswer, rfl⟩ | ⟨w, ⟨⟩, -⟩ | ⟨⟨⟩, -⟩)
      exact ⟨⟨rfl, hanswer⟩, rfl⟩
  | carryOut j =>
    rw [Option.ite_none_right_eq_some, Option.map_eq_some_iff]
    constructor
    · rintro ⟨rfl, w, hwritten, rfl⟩
      exact Or.inr (Or.inl ⟨w, rfl, hwritten, rfl⟩)
    · rintro (⟨d, ⟨⟩, -⟩ | ⟨w, ⟨⟩, hwritten, rfl⟩ | ⟨⟨⟩, -⟩)
      exact ⟨rfl, w, hwritten, rfl⟩
  | _ => simp [eq_comm]

/-- A step adds its event to what a past makes of the branch and the journal. -/
theorem Step.makes (hstep : Step s m s') (hmakes : Past.Makes past (s.branch i) (s.journal i)) :
    Past.Makes (past ++ (s.event? i m).toList) (s'.branch i) (s'.journal i) := by
  by_cases hi : i < s.size
  · cases hevent : s.event? i m with
    | some e =>
      obtain ⟨-, ⟨command, rfl, ⟨vote, hanswer⟩, rfl⟩ | ⟨w, rfl, hwritten, rfl⟩ | ⟨hcleans, rfl⟩⟩ :=
        event?_eq_some.mp hevent
      · cases hstep with
        | coordinate _ _ =>
          have hobeys := order_obeys command hi
          have hjournal : (s.order i command).journal i = s.journal i := hobeys.keeps.2.2
          rw [hanswer] at hobeys
          rw [hjournal]
          exact .accepted hmakes hobeys.accepts
      · obtain ⟨htask, hok⟩ := written?_eq_some.mp hwritten
        have happend : s'.connection i = (s.connection i).append w := by
          change s'.core.connection i = _
          rw [hstep.core_of_write htask, Core.perform_of_ok hok]
          exact Core.connection_update_self hi
        rw [branch, journal, happend]
        exact .wrote w hmakes
      · have hreset : s'.connection i = (s.connection i).reset := by
          change s'.core.connection i = _
          rw [hstep.core_of_cleans hcleans]
          exact Core.connection_clean_self hi
        rw [branch, journal, hreset]
        exact .cleaned hmakes
    | none =>
      -- without an event neither a write nor a command nor a cleaning has an effect
      have hnone : ∀ e, s.event? i m ≠ some e := fun e => by simp [hevent]
      have hsame : s'.branch i = s.branch i ∧ s'.journal i = s.journal i := by
        rcases hstep.participant_cases hi with
          ⟨-, hsame⟩ | ⟨w, rfl, htask, hok, -⟩ | ⟨command, t, rfl, hobeys, -⟩ | ⟨hcleans, -⟩
        · rw [branch, journal, hsame]
          exact ⟨rfl, rfl⟩
        · have hwritten := written?_eq_some.mpr ⟨htask, hok⟩
          exact absurd (event?_eq_some.mpr ⟨hi, Or.inr (Or.inl ⟨w, rfl, hwritten, rfl⟩)⟩) (hnone _)
        · refine ⟨hobeys.branch.resolve_right ?_, hobeys.keeps.2.2⟩
          rintro ⟨hanswer, -⟩
          exact hnone _ (event?_eq_some.mpr ⟨hi, Or.inl ⟨command, rfl, hanswer, rfl⟩⟩)
        · exact absurd (event?_eq_some.mpr ⟨hi, Or.inr (Or.inr ⟨hcleans, rfl⟩)⟩) (hnone _)
      rw [hsame.1, hsame.2]
      simpa using hmakes
  · have hge := Nat.le_of_not_lt hi
    have hevent : s.event? i m = none := by simp [event?, hi]
    obtain ⟨hbranch, hjournal⟩ := hstep.participant_of_ge hge
    rw [branch_of_ge hge, journal_of_ge hge] at hmakes
    rw [hevent, hbranch, hjournal]
    simpa using hmakes

theorem HasPast.makes (hpast : s.HasPast i past) :
    Past.Makes past (s.branch i) (s.journal i) := by
  induction hpast with
  | new hnew =>
    rw [hnew.branch i, hnew.journal i]
    exact .new
  | step hpast hstep ih => exact hstep.makes ih

end Schedule

end GraphCommit
