import GraphCommit.Derivation.Run
import GraphCommit.Proofs.Agreement

/-!
# What a derivation asks the stores

A derivation works with two clients.  To the target it writes, and nothing else.  The client of the
working repository writes, commits, queries and disconnects.  Two derivations whose questions are
answered alike (`Parallel`) agree in all their parts, whatever is found and whether they fail or
not, and so they report the same (`relates_run`).

With one derivation on both sides this says what it makes of the stores: a predicate of the stores
that the questions preserve (`Allows`) is preserved by the whole (`run_stores`).
-/

namespace GraphCommit.Derivation

open Effect

variable {S : Type} [Backend S]

/-! ## The parts of a derivation -/

/-- The questions that derivations put between opening and shutting down the working repository
keep a relation. -/
structure Parallel (R : Outside S → Outside S → Prop) (scope scope' : Scope) : Prop where
  context : scope.context = scope'.context
  note : ∀ {o o' : Outside S} (level : Level) (message : String), R o o' →
    R (o.note level Record.derivations message) (o'.note level Record.derivations message)
  target : ∀ w : Write, Agree R Eq (scope.target.write w : Job S Unit) (scope'.target.write w)
  write : ∀ w : Write, Agree R Eq (scope.working.write w : Job S Unit) (scope'.working.write w)
  commit : Agree R Eq (scope.working.act .commit : Job S Unit) (scope'.working.act .commit)
  disconnect :
    Agree R Eq (scope.working.act .disconnect : Job S Unit) (scope'.working.act .disconnect)
  select : ∀ text : String,
    Agree R Eq (scope.working.select text : Job S (List Row)) (scope'.working.select text)
  ask : ∀ text : String, Agree R Eq (scope.working.ask text : Job S Bool) (scope'.working.ask text)

/-- How far two passes have come, apart from the stores and the log. -/
structure Abreast (R : Outside S → Outside S → Prop) (p p' : Pass S) : Prop where
  outside : R p.outside p'.outside
  counter : p.counter = p'.counter
  typed : p.typed = p'.typed
  found : p.found = p'.found

section

variable {R : Outside S → Outside S → Prop} {scope scope' : Scope}

omit [Backend S] in
theorem agree_job {α : Type} {j k : Job S α} (hj : Agree R Eq j k) :
    Agree (Abreast R) Eq (Step.job j) (Step.job k) := by
  intro p p' hp
  have hends := hj p.outside p'.outside hp.outside
  unfold Step.job
  generalize j p.outside = done at hends ⊢
  generalize k p'.outside = done' at hends ⊢
  cases hends with
  | returns h => exact .returns ⟨h.1, h.2, hp.counter, hp.typed, hp.found⟩
  | fails h => exact .fails ⟨h, hp.counter, hp.typed, hp.found⟩

omit [Backend S] in
theorem agree_given {α : Type} (value : Except Fault α) :
    Agree (Abreast R) Eq (Step.given value) (Step.given value) := by
  intro p p' hp
  cases value with
  | error f => exact .fails hp
  | ok a => exact .returns ⟨rfl, hp⟩

variable (hparallel : Parallel R scope scope')

include hparallel

theorem agree_note (level : Level) (message : String) :
    Agree R Eq (Job.note level Record.derivations message : Job S Unit)
      (Job.note level Record.derivations message) :=
  fun _ _ ho => .returns ⟨rfl, hparallel.note level message ho⟩

theorem agree_commitWorking :
    Agree R Eq (commitWorking scope : Job S Unit) (commitWorking scope') :=
  Job.relates_relabel _ hparallel.commit

theorem agree_replay (w : Write) : Agree (Abreast R) Eq (replay scope w) (replay scope' w) := by
  unfold replay
  split
  · exact (agree_job (hparallel.write w)).next fun _ => agree_job (agree_commitWorking hparallel)
  · exact agree_pure rfl

theorem agree_typeInstance (class_ : String) :
    Agree (Abreast R) Eq (typeInstance scope class_) (typeInstance scope' class_) := by
  unfold typeInstance
  refine agree_get.bind fun p p' hp => ?_
  rw [hp.typed, hparallel.context]
  split
  · exact agree_pure rfl
  · refine (agree_given _).next fun name => ?_
    refine (agree_job (hparallel.write _)).next fun _ => ?_
    refine (agree_job (agree_commitWorking hparallel)).next fun _ => ?_
    exact agree_modify fun q q' hq => ⟨hq.outside, hq.counter, by rw [hq.typed], hq.found⟩

/-- What was found is written to the target. -/
theorem agree_record (service input output : String) :
    Agree (Abreast R) Eq (record scope service input output)
      (record scope' service input output) := by
  unfold record
  refine agree_get.bind fun p p' hp => ?_
  rw [hp.counter, hparallel.context]
  rcases p'.counter.next service with ⟨number, counter⟩
  dsimp only
  refine Agree.next (agree_modify fun q q' hq => ⟨hq.outside, rfl, hq.typed, hq.found⟩) fun _ => ?_
  refine Agree.next (agree_forM fun triple _ => agree_job (hparallel.target _)) fun _ => ?_
  refine (agree_job (agree_note hparallel _ _)).next fun _ => ?_
  exact agree_modify fun q q' hq => ⟨hq.outside, hq.counter, hq.typed, by rw [hq.found]⟩

theorem agree_resolveInput (row : Row) (service input output : String) :
    Agree (Abreast R) Eq (resolveInput scope row service input output)
      (resolveInput scope' row service input output) := by
  unfold resolveInput
  split
  · exact agree_job (agree_note hparallel _ _)
  · refine (agree_job (hparallel.select _)).next fun rows => agree_forM fun resolved _ => ?_
    exact (agree_given _).next fun value => agree_record hparallel service input value

theorem agree_resolveLocal (row : Row) (service input output : String) :
    Agree (Abreast R) Eq (resolveLocal scope row service input output)
      (resolveLocal scope' row service input output) := by
  unfold resolveLocal
  refine (agree_given _).next fun condition => ?_
  refine (agree_job (hparallel.select _)).next fun rows => agree_forM fun resolved _ => ?_
  refine (agree_given _).next fun value => ?_
  split
  · exact agree_record hparallel service input value
  · exact agree_pure rfl

theorem agree_deriveFormat (row : Row) (service input : String) (format : Row) :
    Agree (Abreast R) Eq (deriveFormat scope row service input format)
      (deriveFormat scope' row service input format) := by
  unfold deriveFormat
  refine (agree_given _).next fun output => ?_
  refine (agree_job (hparallel.ask _)).next fun isFormat => ?_
  split
  · exact agree_job (agree_note hparallel _ _)
  · refine (agree_job (hparallel.select _)).next fun types => ?_
    split
    · exact agree_resolveInput hparallel row service input output
    · exact agree_resolveLocal hparallel row service input output
    · exact agree_record hparallel service input output

theorem agree_deriveService (row : Row) :
    Agree (Abreast R) Eq (deriveService scope row) (deriveService scope' row) := by
  unfold deriveService
  refine (agree_given _).next fun service => (agree_given _).next fun input => ?_
  refine (agree_given _).next fun class_ => ?_
  refine (agree_typeInstance hparallel class_).next fun _ => ?_
  refine (agree_job (hparallel.select _)).next fun formats => ?_
  exact agree_forM fun format _ => agree_deriveFormat hparallel row service input format

theorem agree_pass (writes : List Write) :
    Agree (Abreast R) Eq (pass scope writes) (pass scope' writes) := by
  unfold pass
  rw [hparallel.context]
  refine (agree_forM fun w _ => agree_replay hparallel w).next fun _ => ?_
  refine (agree_job (hparallel.select _)).next fun services => ?_
  exact agree_forM fun row _ => agree_deriveService hparallel row

/-- A pass that is run as a job does not fail: its fault is part of what it returns. -/
theorem relates_runPass {E : Outside S → Outside S → Prop} (writes : List Write) :
    Relates R (runPass scope writes : Job S (Except Fault Unit × List Transformation))
      (runPass scope' writes) (fun a b o o' => a = b ∧ R o o') E := by
  intro o o' ho
  have hends := agree_pass hparallel writes { outside := o } { outside := o' }
    ⟨ho, rfl, rfl, rfl⟩
  unfold runPass
  generalize pass scope writes { outside := o } = done at hends ⊢
  generalize pass scope' writes { outside := o' } = done' at hends ⊢
  cases hends with
  | returns h => exact .returns ⟨by rw [h.1, h.2.found], h.2.outside⟩
  | fails h => exact .returns ⟨by rw [h.found], h.outside⟩

theorem agree_clean : Agree R Eq (clean scope : Job S Unit) (clean scope') := by
  unfold clean
  rw [hparallel.context]
  refine Job.relates_relabel _ ?_
  refine (hparallel.write _).next fun _ => ?_
  exact hparallel.commit.next fun _ => hparallel.disconnect

end

omit [Backend S] in
theorem relates_logFault {α : Type} {R E : Outside S → Outside S → Prop} (heading : String)
    (hnote : ∀ {o o' : Outside S} (level : Level) (message : String), R o o' →
      R (o.note level Record.derivations message) (o'.note level Record.derivations message))
    (result : Except Fault α) :
    Relates R (logFault heading result : Job S Unit) (logFault heading result)
      (fun _ _ o o' => R o o') E := by
  intro o o' ho
  cases result with
  | ok a => exact .returns ho
  | error f => exact .returns (hnote _ _ ho)

/-! ## A whole derivation -/

/-- Derivations whose questions are answered alike, from opening the working repository to shutting
it down, report the same. -/
theorem relates_run {R₀ E : Outside S → Outside S → Prop} {V : ClientId → ClientId → Prop}
    {R : ClientId → ClientId → Outside S → Outside S → Prop} {target target' : ClientId}
    (context : String) (writes : List Write)
    (hbefore : ∀ {o o' : Outside S} (level : Level) (message : String), R₀ o o' →
      R₀ (o.note level Record.derivations message) (o'.note level Record.derivations message))
    (hafter : ∀ {o o' : Outside S} (level : Level) (message : String), E o o' →
      E (o.note level Record.derivations message) (o'.note level Record.derivations message))
    (hopen : Relates R₀ (Job.call Backend.openWorking : Job S ClientId)
      (Job.call Backend.openWorking)
      (fun working working' o o' => V working working' ∧ R working working' o o') E)
    (hparallel : ∀ working working', V working working' →
      Parallel (R working working') ⟨context, working, target⟩ ⟨context, working', target'⟩)
    (hshut : ∀ working working', V working working' → Relates (R working working')
      (Job.call Backend.shutDownWorking : Job S Unit) (Job.call Backend.shutDownWorking)
      (fun a b o o' => a = b ∧ E o o') E) :
    Relates R₀ (run target context writes : Job S Report) (run target' context writes)
      (fun a b o o' => a = b ∧ E o o') E := by
  unfold run
  have hnote : Relates R₀ (Job.note .debug Record.derivations
        ("materializing transformations of context " ++ context) : Job S Unit)
      (Job.note .debug Record.derivations
        ("materializing transformations of context " ++ context))
      (fun _ _ => R₀) E := fun _ _ ho => .returns (hbefore _ _ ho)
  refine hnote.bind fun _ _ => ?_
  refine (Job.relates_relabel _ hopen).bind fun working working' => ?_
  rintro o o' ⟨hworking, ho⟩
  revert o o' ho
  change Relates (R working working') _ _ _ _
  have hp := hparallel working working' hworking
  -- neither the pass nor what is observed can fail, so the working repository is shut down
  refine (relates_runPass hp writes).bind fun a b => ?_
  rintro o o' ⟨rfl, ho⟩
  revert o o' ho
  obtain ⟨derived, found⟩ := a
  change Relates (R working working') _ _ _ _
  dsimp only
  refine (relates_logFault _ hp.note derived).bind fun _ _ => ?_
  refine (Job.relates_observe (agree_clean hp)).bind fun cleaned cleaned' => ?_
  rintro o o' ⟨rfl, ho⟩
  revert o o' ho
  change Relates (R working working') _ _ _ _
  refine (relates_logFault _ hp.note cleaned).bind fun _ _ => ?_
  refine (Job.relates_observe (hshut working working' hworking)).bind fun shutDown shutDown' => ?_
  rintro o o' ⟨rfl, ho⟩
  revert o o' ho
  change Relates E _ _ _ _
  refine (relates_logFault _ hafter shutDown).bind fun _ _ => ?_
  generalize firstFault (firstFault derived cleaned) _ = outcome
  cases outcome with
  | error f => exact fun _ _ ho => .fails ho
  | ok _ => exact fun _ _ ho => .returns ⟨rfl, hafter _ _ ho⟩

/-! ## One derivation -/

/-- The questions that a derivation puts between opening and shutting down the working repository
preserve a predicate. -/
structure Allows (P : S → Prop) (target working : ClientId) : Prop where
  target : ∀ s w, P s → P (Backend.act s target (.write w)).state
  write : ∀ s w, P s → P (Backend.act s working (.write w)).state
  commit : ∀ s, P s → P (Backend.act s working .commit).state
  disconnect : ∀ s, P s → P (Backend.act s working .disconnect).state
  select : ∀ s text, P s → P (Backend.select s working text).state
  ask : ∀ s text, P s → P (Backend.ask s working text).state

/-- The same stores on both sides, of which something holds. -/
def Shared (P : S → Prop) (o o' : Outside S) : Prop := o.stores = o'.stores ∧ P o.stores

omit [Backend S] in
theorem relates_call {α : Type} {P Q E : S → Prop} {question : S → Response S α}
    (hok : ∀ s a, P s → (question s).result = .ok a → Q (question s).state)
    (herror : ∀ s f, P s → (question s).result = .error f → E (question s).state) :
    Relates (Shared P) (Job.call question) (Job.call question)
      (fun a b o o' => a = b ∧ Shared Q o o') (Shared E) := by
  rintro o o' ⟨hsame, hP⟩
  rw [Job.call_apply, Job.call_apply, ← hsame]
  cases hresult : (question o.stores).result with
  | error f => exact .fails ⟨rfl, herror _ f hP hresult⟩
  | ok a => exact .returns ⟨rfl, rfl, hok _ a hP hresult⟩

omit [Backend S] in
theorem agree_call {α : Type} {P : S → Prop} {question : S → Response S α}
    (hkeeps : ∀ s, P s → P (question s).state) :
    Agree (Shared P) Eq (Job.call question) (Job.call question) :=
  relates_call (fun s _ hs _ => hkeeps s hs) fun s _ hs _ => hkeeps s hs

theorem Allows.parallel {P : S → Prop} {target working : ClientId}
    (hallows : Allows P target working) (context : String) :
    Parallel (Shared P) ⟨context, working, target⟩ ⟨context, working, target⟩ where
  context := rfl
  note := fun _ _ h => h
  target := fun w => agree_call fun s hs => hallows.target s w hs
  write := fun w => agree_call fun s hs => hallows.write s w hs
  commit := agree_call hallows.commit
  disconnect := agree_call hallows.disconnect
  select := fun text => agree_call fun s hs => hallows.select s text hs
  ask := fun text => agree_call fun s hs => hallows.ask s text hs

/-- A derivation ends where shutting down the working repository leads from a state that its
questions preserve, or where opening it failed. -/
theorem run_stores {R : S → Prop} {Q : ClientId → S → Prop} {target : ClientId}
    (context : String) (writes : List Write) (o : Outside S)
    (hopen : match (Backend.openWorking o.stores).result with
      | .ok working => Q working (Backend.openWorking o.stores).state
      | .error _ => R (Backend.openWorking o.stores).state)
    (hallows : ∀ working, Allows (Q working) target working)
    (hshut : ∀ working s, Q working s → R (Backend.shutDownWorking s).state) :
    R (run target context writes o).2.stores := by
  -- a derivation is compared with itself, in one and the same state
  have hopen' : Relates (Shared (· = o.stores)) (Job.call Backend.openWorking : Job S ClientId)
      (Job.call Backend.openWorking)
      (fun working working' o o' => working = working' ∧ Shared (Q working) o o') (Shared R) := by
    rintro p p' ⟨hsame, hstores⟩
    rw [Job.call_apply, Job.call_apply, ← hsame, hstores]
    revert hopen
    cases (Backend.openWorking o.stores).result with
    | error f => exact fun hR => .fails ⟨rfl, hR⟩
    | ok working => exact fun hQ => .returns ⟨rfl, rfl, hQ⟩
  have hparallel : ∀ working working', working = working' → Parallel (Shared (Q working))
      ⟨context, working, target⟩ ⟨context, working', target⟩ := by
    rintro working _ rfl
    exact (hallows working).parallel context
  have hshut' : ∀ working working', working = working' → Relates (Shared (Q working))
      (Job.call Backend.shutDownWorking : Job S Unit) (Job.call Backend.shutDownWorking)
      (fun a b o o' => a = b ∧ Shared R o o') (Shared R) :=
    fun working _ _ => relates_call (fun s _ hs _ => hshut working s hs)
      fun s _ hs _ => hshut working s hs
  have hends := relates_run context writes (fun _ _ h => h) (fun _ _ h => h) hopen' hparallel
    hshut' o o ⟨rfl, rfl⟩
  generalize run target context writes o = done at hends ⊢
  cases hends with
  | returns h => exact h.2.2
  | fails h => exact h.2

end GraphCommit.Derivation
