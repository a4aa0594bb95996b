import Mathlib.Data.List.DropRight
import GraphCommit.Proofs.Piece
import GraphCommit.Proofs.Store.Depot
import GraphCommit.Query.Engine

/-!
# The journal and the audit trail

A write that is accepted is put into the journal of its connection and into the audit trail.  So
three lists belong together: the writes that a connection was allowed since it was last cleaned,
what is in its journal, and what the connector said of accepted writes in the audit trail.  They are
compared here in a run of any pieces, with whatever the stores and the lock answer.

The stores leave records as well, and the log does not tell whose record it keeps.  What the
connector itself has `spoken` is what it would add to the log if the stores were `hushed`.
-/

namespace GraphCommit

/-! ## What a connector says itself -/

/-- The record of an accepted write. -/
def Write.added (w : Write) : Record := ⟨.info, Record.audit, "operation added: " ++ w.text⟩

/-- The records of the audit trail that are no more than informative. -/
def Record.isAudit (r : Record) : Bool := r.level == .info && r.target == Record.audit

theorem Write.isAudit_added (w : Write) : w.added.isAudit = true := by
  simp [Write.added, Record.isAudit]

section

variable {S : Type}

/-- The stores with their records left out. -/
@[reducible] def Backend.hushed (stores : Backend S) : Backend S where
  durability := stores.durability
  act s k a := { stores.act s k a with records := [] }
  select s k text := { stores.select s k text with records := [] }
  ask s k text := { stores.ask s k text with records := [] }
  create s := { stores.create s with records := [] }
  openWorking s := { stores.openWorking s with records := [] }
  shutDownWorking s := { stores.shutDownWorking s with records := [] }

/-- What the connector itself adds to the log in a piece. -/
def Piece.spoken [stores : Backend S] (p : Piece) (c : Connector S) : List Record :=
  (@Connector.after S stores.hushed c p).outside.log.records.drop c.outside.log.records.length

/-- All records that the stores leave are of a kind. -/
structure Backend.Leaves (stores : Backend S) (kind : List Record → Prop) : Prop where
  act : ∀ s k a, kind (stores.act s k a).records
  select : ∀ s k text, kind (stores.select s k text).records
  ask : ∀ s k text, kind (stores.ask s k text).records
  create : ∀ s, kind (stores.create s).records
  openWorking : ∀ s, kind (stores.openWorking s).records
  shutDownWorking : ∀ s, kind (stores.shutDownWorking s).records

theorem Backend.leaves_hushed (stores : Backend S) : stores.hushed.Leaves (· = []) :=
  ⟨fun _ _ _ => rfl, fun _ _ _ => rfl, fun _ _ _ => rfl, fun _ => rfl, fun _ => rfl, fun _ => rfl⟩

end

/-! ## Logs -/

namespace Log

/-- A log goes on from some records, and the records that were added are not of the audit trail. -/
def GoesOn (before : List Record) (log : Log) : Prop :=
  ∃ rs, log.records = before ++ rs ∧ ∀ r ∈ rs, r.isAudit = false

theorem GoesOn.add {before : List Record} {log : Log} {r : Record} (hlog : log.GoesOn before)
    (hr : r.isAudit = false) : (log.add r).GoesOn before := by
  obtain ⟨rs, hrecords, hrs⟩ := hlog
  unfold Log.add
  split
  · refine ⟨rs ++ [r], by simp [hrecords], ?_⟩
    intro x hx
    rcases List.mem_append.mp hx with hold | hnew
    · exact hrs x hold
    · rwa [List.mem_singleton.mp hnew]
  · exact ⟨rs, hrecords, hrs⟩

end Log

/-! ## Relations of the log alone -/

section

variable {S : Type} {P : Log → Prop}

/-- The same stores, and logs with the same threshold of which something holds. -/
structure Heard (P : Log → Prop) (o o' : Outside S) : Prop where
  stores : o.stores = o'.stores
  threshold : o.log.threshold = o'.log.threshold
  left : P o.log
  right : P o'.log

theorem Heard.agree_call {α : Type} {question : S → Response S α}
    (hrecords : ∀ s log, P log → P (log.addAll (question s).records)) :
    Effect.Agree (Heard P) Eq (Job.call question) (Job.call question) := by
  intro o o' ho
  rw [Job.call_apply, Job.call_apply, ← ho.stores]
  have hafter : Heard P ⟨(question o.stores).state, o.log.addAll (question o.stores).records⟩
      ⟨(question o.stores).state, o'.log.addAll (question o.stores).records⟩ := by
    refine ⟨rfl, ?_, hrecords _ _ ho.left, hrecords _ _ ho.right⟩
    rw [Log.threshold_addAll, Log.threshold_addAll]
    exact ho.threshold
  cases (question o.stores).result with
  | error f => exact .fails hafter
  | ok a => exact .returns ⟨rfl, hafter⟩

theorem Heard.note {o o' : Outside S} (ho : Heard P o o') (level : Level)
    (target message message' : String)
    (hadd : ∀ log message, P log → P (log.add ⟨level, target, message⟩)) :
    Heard P (o.note level target message) (o'.note level target message') := by
  refine ⟨ho.stores, ?_, hadd _ _ ho.left, hadd _ _ ho.right⟩
  simp only [Outside.note, Log.threshold_add]
  exact ho.threshold

/-- What is asked of the stores keeps what holds of the log, if their records and the notes do. -/
theorem mirrors_heard [stores : Backend S] {kind : List Record → Prop}
    (hleaves : stores.Leaves kind)
    (hrecords : ∀ log rs, kind rs → P log → P (log.addAll rs))
    (hadd : ∀ log (r : Record), r.isAudit = false → P log → P (log.add r)) :
    Mirrors (Heard P : Outside S → Outside S → Prop) id where
  note := by
    intro o o' level target message message' hother ho
    refine ho.note level target message message' fun log m => hadd log _ ?_
    simpa [Record.isAudit] using hother
  threshold := fun ho => ho.threshold
  durability := fun k ho => by rw [ho.stores]; rfl
  act := fun k a => Heard.agree_call fun s log => hrecords log _ (hleaves.act s k a)
  select := fun k text => Heard.agree_call fun s log => hrecords log _ (hleaves.select s k text)
  ask := fun k text => Heard.agree_call fun s log => hrecords log _ (hleaves.ask s k text)
  create := (Heard.agree_call fun s log => hrecords log _ (hleaves.create s)).mono
    (fun _ _ _ _ h => ⟨h.1.symm, h.2⟩) fun _ _ h => h
  openWorking := (Heard.agree_call fun s log => hrecords log _ (hleaves.openWorking s)).mono
    (fun _ _ _ _ h => ⟨h.1.symm, h.2⟩) fun _ _ h => h
  shutDownWorking := Heard.agree_call fun s log => hrecords log _ (hleaves.shutDownWorking s)

end

namespace Piece

variable {S : Type} [stores : Backend S] {c : Connector S} {p : Piece} {i : Nat} {w : Write}

/-! ## What is said in a piece -/

omit stores in
/-- A connector mirrors itself, as far as its log goes. -/
theorem mirror_self {P : Log → Prop} (c : Connector S) (hc : P c.outside.log) :
    Connector.Mirror (Heard P) id id c.notices c.connections.length c c where
  hasWorking := rfl
  locks := (LockManager.rename_of_same (fun _ _ => rfl) fun _ _ => rfl).symm
  connections := by
    rw [show Connection.under id id = id from rfl, List.map_id]
  notices := ⟨[], by simp, by simp⟩
  outside := ⟨rfl, rfl, hc, hc⟩
  size := Nat.le_refl _
  later := fun _ => rfl

/-- What holds of a log and is kept by all that is added to it holds after a piece. -/
theorem log_after {P : Log → Prop} {kind : List Record → Prop} (hp : p.Fits c)
    (hc : P c.outside.log) (hleaves : stores.Leaves kind)
    (hrecords : ∀ log rs, kind rs → P log → P (log.addAll rs))
    (hadd : ∀ log (r : Record), r.isAudit = false ∨ p.isWrite = true → P log → P (log.add r)) :
    P (c.after p).outside.log := by
  have hmirrors : Mirrors (Heard P : Outside S → Outside S → Prop) id :=
    mirrors_heard hleaves hrecords fun log r hr => hadd log r (Or.inl hr)
  have hagree : Effect.Agree (Connector.Mirror (Heard P) id id c.notices c.connections.length) Eq
      (p.run : Connector.Run S Outcome) (p.rename id).run :=
    agree_run hmirrors Function.injective_id p (fun hwrite _ _ message ho =>
      ho.note .info Record.audit message message fun log m => hadd log _ (Or.inr hwrite)) hp
  exact (hagree c c (mirror_self c hc)).states.outside.left

theorem threshold_after (hp : p.Fits c) :
    (c.after p).outside.log.threshold = c.outside.log.threshold := by
  have hleaves : stores.Leaves fun _ => True :=
    ⟨fun _ _ _ => trivial, fun _ _ _ => trivial, fun _ _ _ => trivial, fun _ => trivial,
      fun _ => trivial, fun _ => trivial⟩
  refine log_after (P := fun log => log.threshold = c.outside.log.threshold) hp rfl hleaves ?_ ?_
  · intro log rs _ hlog
    rwa [Log.threshold_addAll]
  · intro log r _ hlog
    rwa [Log.threshold_add]

/-- The connector says nothing in the audit trail but what it says of accepted writes. -/
theorem spoken_of_not_write (hp : p.Fits c) (hwrite : p.isWrite = false) :
    (p.spoken c).filter Record.isAudit = [] := by
  have hgoes : (@Connector.after S stores.hushed c p).outside.log.GoesOn
      c.outside.log.records := by
    refine @log_after S stores.hushed c p (Log.GoesOn c.outside.log.records) (· = []) hp
      ⟨[], by simp, by simp⟩ stores.leaves_hushed ?_ ?_
    · rintro log rs rfl hlog
      exact hlog
    · rintro log r (hr | hw) hlog
      · exact hlog.add hr
      · rw [hwrite] at hw
        contradiction
  obtain ⟨rs, hrecords, hrs⟩ := hgoes
  rw [spoken, hrecords, List.drop_left, List.filter_eq_nil_iff]
  intro r hr
  simp [hrs r hr]

theorem isOk_write : ((write i w).run c).1.isOk =
    (Backend.act c.outside.stores (c.connection i).client (.write w)).result.isOk := by
  rw [run, Effect.map_apply]
  simp only [Connector.perform, Effect.bind_apply, Connector.connectionAt_apply,
    Connector.job_apply, ClientId.write, ClientId.act_apply]
  cases (Backend.act c.outside.stores (c.connection i).client (.write w)).result <;> rfl

theorem log_write : (c.after (write i w)).outside.log =
    if (Backend.act c.outside.stores (c.connection i).client (.write w)).result.isOk = true then
      (c.outside.log.addAll
        (Backend.act c.outside.stores (c.connection i).client (.write w)).records).add w.added
    else c.outside.log.addAll
      (Backend.act c.outside.stores (c.connection i).client (.write w)).records := by
  rw [Connector.after, run, Effect.map_snd]
  simp only [Connector.perform, Effect.bind_apply, Connector.connectionAt_apply,
    Connector.job_apply, ClientId.write, ClientId.act_apply]
  cases (Backend.act c.outside.stores (c.connection i).client (.write w)).result <;> rfl

/-- An accepted write is told to the audit trail, a refused one is not. -/
theorem spoken_write : (write i w).spoken c =
    if ((write i w).run c).1.isOk = true ∧ c.outside.log.keeps .info = true then [w.added]
    else [] := by
  have hlog := @log_write S stores.hushed c i w
  change _ = if (Backend.act c.outside.stores (c.connection i).client (.write w)).result.isOk = true
    then c.outside.log.add w.added else c.outside.log at hlog
  simp only [spoken, hlog, isOk_write]
  by_cases hok :
      (Backend.act c.outside.stores (c.connection i).client (.write w)).result.isOk = true
  · by_cases hkeeps : c.outside.log.keeps .info = true
    · simp [Log.add, hok, hkeeps, Write.added]
    · simp [Log.add, hok, hkeeps, Write.added]
  · simp [hok]

end Piece

namespace Connector

variable {S : Type} [stores : Backend S] {c : Connector S} {p : Piece} {i : Nat} {w : Write}

/-! ## Three lists -/

/-- The part of a trail since a connection was last cleaned. -/
def since (i : Nat) (trail : List (Connector S × Piece)) : List (Connector S × Piece) :=
  trail.rtakeWhile fun step => step.2.cleaned? ≠ some i

/-- The write of a connection that is accepted in a piece, if it is one. -/
def accepted? (i : Nat) : Connector S × Piece → Option Write
  | (c, .write j w) => if j = i ∧ ((Piece.write j w).run c).1.isOk then some w else none
  | _ => none

/-- The writes of a connection that were accepted, in the order of the calls. -/
def accepted (i : Nat) (trail : List (Connector S × Piece)) : List Write :=
  trail.filterMap (accepted? i)

/-- What the connector has said on behalf of a connection. -/
def spoken (i : Nat) (trail : List (Connector S × Piece)) : List Record :=
  (trail.filter fun step => step.2.actor? = some i).flatMap fun step => step.2.spoken step.1

theorem accepted?_eq_some {v : Write} : accepted? i (c, p) = some v ↔
    p = .write i v ∧ ((Piece.write i v).run c).1.isOk = true := by
  cases p with
  | write j w =>
    simp only [accepted?, Option.ite_none_right_eq_some]
    constructor
    · rintro ⟨⟨rfl, hok⟩, ⟨⟩⟩
      exact ⟨rfl, hok⟩
    · rintro ⟨⟨⟩, hok⟩
      exact ⟨⟨rfl, hok⟩, rfl⟩
  | _ => simp [accepted?]

@[simp] theorem accepted_append (first second : List (Connector S × Piece)) :
    accepted i (first ++ second) = accepted i first ++ accepted i second :=
  List.filterMap_append

@[simp] theorem spoken_append (first second : List (Connector S × Piece)) :
    spoken i (first ++ second) = spoken i first ++ spoken i second := by
  rw [spoken, List.filter_append, List.flatMap_append]
  rfl

/-- In one piece, the audit trail is told of the accepted write, if there is one. -/
theorem audit_singleton (hp : p.Fits c) :
    (spoken i [(c, p)]).filter Record.isAudit =
      if c.outside.log.keeps .info = true then (accepted i [(c, p)]).map Write.added else [] := by
  by_cases hactor : p.actor? = some i
  · have hspoken : spoken i [(c, p)] = p.spoken c := by simp [spoken, hactor]
    rw [hspoken]
    cases p with
    | write j w =>
      obtain rfl := Option.some.inj hactor
      have hadded := w.isAudit_added
      rw [Piece.spoken_write]
      by_cases hok : ((Piece.write j w).run c).1.isOk = true
      · by_cases hkeeps : c.outside.log.keeps .info = true
        · simp [accepted, accepted?, hok, hkeeps, hadded]
        · simp [hkeeps]
      · simp [accepted, accepted?, hok]
    | _ =>
      rw [Piece.spoken_of_not_write hp rfl]
      simp [accepted, accepted?]
  · have hnone : accepted? i (c, p) = none := by
      by_contra hsome
      obtain ⟨v, hv⟩ := Option.ne_none_iff_exists'.mp hsome
      obtain ⟨rfl, -⟩ := accepted?_eq_some.mp hv
      exact hactor rfl
    simp [spoken, accepted, hactor, hnone]

/-- The threshold of the log stays as it is. -/
theorem threshold_follow {c₀ : Connector S} (ps : List Piece) (hps : c₀.Allows ps) :
    (c₀.follow ps).outside.log.threshold = c₀.outside.log.threshold := by
  induction ps generalizing c₀ with
  | nil => rfl
  | cons p rest ih => exact (ih hps.2).trans (Piece.threshold_after hps.1)

/-- A piece that cleans no journal adds to it what it accepts. -/
theorem journal_after (hp : p.Fits c) (hcleaned : p.cleaned? ≠ some i) :
    ((c.after p).connection i).journal.writes =
      (c.connection i).journal.writes ++ accepted i [(c, p)] := by
  have hdoes := p.does_after c
  have hnone : (∀ v, accepted? i (c, p) ≠ some v) → accepted i [(c, p)] = [] := by
    intro h
    have hfound : accepted? i (c, p) = none := Option.eq_none_iff_forall_ne_some.mpr h
    simp [accepted, hfound]
  by_cases hi : i < c.core.size
  · rcases hdoes.connection hi with ⟨hclean, -⟩ | ⟨w, rfl, hok, happend⟩ | hleaves
    · exact absurd hclean hcleaned
    · have hfound : accepted? i (c, .write i w) = some w := by
        rw [accepted?_eq_some, Piece.isOk_write]
        exact ⟨rfl, Effect.isOk_iff.mpr ⟨(), hok⟩⟩
      have hafter : (c.after (.write i w)).connection i = (c.connection i).append w := happend
      simp [accepted, hfound, hafter, Connection.append, Connection.journal]
    · rw [hnone, List.append_nil]
      · exact congrArg Journal.writes hleaves.journal
      · intro v hv
        obtain ⟨hp', hok⟩ := accepted?_eq_some.mp hv
        rw [Piece.isOk_write] at hok
        obtain ⟨u, hu⟩ := Effect.isOk_iff.mp hok
        exact hleaves.notAccepted v hp' hu
  · -- there is no such connection, and no piece writes to it
    have hge := Nat.le_of_not_lt hi
    have hbefore : (c.connection i).journal = Journal.empty := Core.journal_of_ge (k := c.core) hge
    have hafter : ((c.after p).connection i).journal = Journal.empty := (hdoes.of_ge hge).1
    rw [hbefore, hafter, hnone]
    · rfl
    · intro v hv
      obtain ⟨rfl, -⟩ := accepted?_eq_some.mp hv
      exact hi (hp i (Or.inl rfl))

/-- The journal and the audit trail of a connection say what was accepted of it. -/
structure Exact (c₀ : Connector S) (ps : List Piece) (i : Nat) : Prop where
  journal : ((c₀.follow ps).connection i).journal.writes = accepted i (since i (c₀.trail ps))
  audit : (spoken i (since i (c₀.trail ps))).filter Record.isAudit =
    if c₀.outside.log.keeps .info = true then
      ((c₀.follow ps).connection i).journal.writes.map Write.added
    else []

theorem exact_follow {c₀ : Connector S} (hnew : c₀.connections = []) (ps : List Piece)
    (hps : c₀.Allows ps) (i : Nat) : c₀.Exact ps i := by
  induction ps using List.reverseRecOn with
  | nil =>
    have hjournal : (c₀.connection i).journal = Journal.empty :=
      Core.journal_of_ge (k := c₀.core) (by simp [Core.size, core, hnew])
    refine ⟨?_, ?_⟩
    · rw [follow, List.foldl_nil, hjournal]
      rfl
    · rw [follow, List.foldl_nil, hjournal]
      simp [trail, since, spoken, Journal.empty]
  | append_singleton ps p ih =>
    obtain ⟨hbefore, hp, -⟩ := allows_append.mp hps
    obtain ⟨hjournal, haudit⟩ := ih hbefore
    have hfollow : c₀.follow (ps ++ [p]) = (c₀.follow ps).after p := follow_append c₀ ps [p]
    have htrail : c₀.trail (ps ++ [p]) = c₀.trail ps ++ [(c₀.follow ps, p)] :=
      trail_append c₀ ps [p]
    have hkeeps : (c₀.follow ps).outside.log.keeps .info = c₀.outside.log.keeps .info := by
      rw [Log.keeps, threshold_follow ps hbefore]
      rfl
    -- whatever is counted since the last cleaning starts anew with this piece, or goes on
    by_cases hcleaned : p.cleaned? = some i
    · have hsince : since i (c₀.trail ps ++ [(c₀.follow ps, p)]) = [] :=
        List.rtakeWhile_concat_neg _ _ _ (by simp [hcleaned])
      have hi : i < (c₀.follow ps).core.size := hp i (Or.inr hcleaned)
      have hempty : (((c₀.follow ps).after p).connection i).journal = Journal.empty := by
        rcases (p.does_after (c₀.follow ps)).connection hi with
          ⟨-, hreset⟩ | ⟨w, rfl, -⟩ | hleaves
        · exact congrArg Connection.journal hreset
        · contradiction
        · exact absurd hcleaned hleaves.notCleaned
      refine ⟨?_, ?_⟩ <;> rw [hfollow, htrail, hsince, hempty]
      · rfl
      · simp [spoken, Journal.empty]
    · have hsince : since i (c₀.trail ps ++ [(c₀.follow ps, p)]) =
          since i (c₀.trail ps) ++ [(c₀.follow ps, p)] :=
        List.rtakeWhile_concat_pos _ _ _ (by simp [hcleaned])
      have hafter := journal_after hp hcleaned
      refine ⟨?_, ?_⟩
      · rw [hfollow, htrail, hsince, accepted_append, hafter, hjournal]
      · rw [hfollow, htrail, hsince, spoken_append, List.filter_append, haudit,
          audit_singleton hp, hkeeps, hafter, List.map_append]
        split <;> rfl

/-! ## What is not accepted -/

end Connector

namespace Depot

open Depot.Work

end Depot

namespace Connector

section

attribute [local instance] Engine.small

end

end Connector

end GraphCommit
