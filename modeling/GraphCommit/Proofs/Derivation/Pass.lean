import GraphCommit.Derivation.Run
import GraphCommit.Proofs.Ensures
import GraphCommit.Proofs.Recorded

/-!
# What a pass of a derivation keeps

A pass puts few questions to the working repository (`Consults`) and writes what it has found to its
target, one transformation after another.  A predicate that these questions keep, and that is kept
when a transformation is written, is kept by the whole pass (`Upholds.pass`).  When a transformation
cannot be written completely, something weaker may hold, with which the pass ends.

What follows on a pass is one job (`finish`), which reports the first fault and otherwise what was
found.
-/

namespace GraphCommit.Derivation

open Effect

variable {S α : Type}

/-! ## Steps -/

theorem ensures_job {P : Pass S → Prop} {Q : α → Pass S → Prop} {E : Fault → Pass S → Prop}
    {j : Job S α} (hj : ∀ p, P p → EndsIn (fun a o => Q a { p with outside := o })
      (fun f o => E f { p with outside := o }) (j p.outside)) :
    Ensures P (Step.job j) Q E := by
  intro p hp
  have hends := hj p hp
  unfold Step.job
  generalize j p.outside = done at hends ⊢
  cases hends with
  | returns h => exact .returns h
  | fails h => exact .fails h

theorem ensures_job_relabel {P : Pass S → Prop} {Q : α → Pass S → Prop}
    {E : Fault → Pass S → Prop} {g : Fault → Fault} {j : Job S α}
    (hj : Ensures P (Step.job j) Q fun f => E (g f)) : Ensures P (Step.job (j.relabel g)) Q E := by
  intro p hp
  have hends := hj p hp
  unfold Step.job at hends ⊢
  rw [Job.relabel_apply]
  generalize j p.outside = done at hends ⊢
  obtain ⟨result, outside⟩ := done
  cases hends with
  | returns h => exact .returns h
  | fails h => exact .fails h

theorem ensures_given {P : Pass S → Prop} {Q : α → Pass S → Prop} {E : Fault → Pass S → Prop}
    {value : Except Fault α} (hok : ∀ a, value = .ok a → ∀ p, P p → Q a p)
    (herror : ∀ f, value = .error f → ∀ p, P p → E f p) : Ensures P (Step.given value) Q E := by
  intro p hp
  cases value with
  | ok a => exact .returns (hok a rfl p hp)
  | error f => exact .fails (herror f rfl p hp)

/-! ## The parts of a pass -/

variable [Backend S]

/-- What a pass asks of the working repository. -/
inductive Consults (scope : Scope) (writes : List Write) : Question → Prop
  | replays {w : Write} (hwrite : w ∈ writes) (hdata : w.isAddData = true) :
      Consults scope writes (.act scope.working (.write w))
  | types {class_ name : String} (hname : instanceOf class_ = .ok name) :
      Consults scope writes
        (.act scope.working (.write (.addTriple ⟨name, Vocabulary.type, class_⟩ scope.context)))
  | commits : Consults scope writes (.act scope.working .commit)
  | selects (text : String) : Consults scope writes (.select scope.working text)
  | asks (text : String) : Consults scope writes (.ask scope.working text)

theorem Consults.client_eq {scope : Scope} {writes : List Write} {q : Question}
    (hq : Consults scope writes q) : q.client? = some scope.working := by
  cases hq <;> rfl

/-- An action of a client that keeps something, whether it is done or not. -/
theorem ensures_act {I E : Pass S → Prop} {k : ClientId} {a : Action}
    (hafter : ∀ p, I p → I { p with outside := ⟨(Backend.act p.outside.stores k a).state,
      p.outside.log.addAll (Backend.act p.outside.stores k a).records⟩ })
    (hgives_up : ∀ p, I p → E p) :
    Ensures I (Step.job (k.act a)) (fun _ => I) (fun _ => E) := by
  refine ensures_job fun p hp => ?_
  rw [ClientId.act_apply]
  cases (Backend.act p.outside.stores k a).result with
  | ok _ => exact .returns (hafter p hp)
  | error f => exact .fails (hgives_up _ (hafter p hp))

/-- Writing a transformation keeps what the target keeps when it is given one triple, and what has
nothing to do with the numbers of the transformations and with the list of those that were found. -/
theorem ensures_record_keeping {scope : Scope} {I E : Pass S → Prop}
    (hwrite : ∀ triple, Ensures I (Step.job (scope.target.write (.addTriple triple scope.context)))
      (fun _ => I) (fun _ => E))
    (hnotes : ∀ p message, I p →
      I { p with outside := p.outside.note .debug Record.derivations message })
    (hfound : ∀ p counter found, I p → I { p with counter, found })
    (service input output : String) :
    Ensures I (record scope service input output) (fun _ => I) (fun _ => E) := by
  unfold record
  refine (ensures_get (P := I)).bind fun q => ?_
  refine Ensures.mono (P := I) ?_ (fun _ hp => hp.2) (fun _ _ h => h) fun _ _ h => h
  rcases q.counter.next service with ⟨number, counter⟩
  dsimp only
  refine (ensures_modify (R := I) fun p hp => hfound p counter p.found hp).bind fun _ => ?_
  refine (ensures_forM_keeping fun triple _ => hwrite triple).bind fun _ => ?_
  refine Ensures.bind (Q := fun _ => I) (ensures_job fun p hp => .returns (hnotes p _ hp))
    fun _ => ?_
  exact ensures_modify fun p hp => hfound p p.counter _ hp

/-- What is asked of the working repository to find out which formats an output stands for. -/
inductive Resolving : String → Prop
  | types (output : String) : Resolving (Queries.typesOf output)
  | ofInput (condition output : String) : Resolving (Queries.outputOfInput condition output)
  | ofLocal (condition output : String) : Resolving (Queries.outputOfLocal condition output)

/-- What is done for one format of an output class keeps `I`, or fails with `E`. -/
structure Resolves (scope : Scope) (I E : Pass S → Prop) : Prop where
  selects : ∀ {text : String}, Resolving text →
    Ensures I (Step.job (scope.working.select text)) (fun _ => I) (fun _ => E)
  asks : ∀ text : String,
    Ensures I (Step.job (scope.working.ask text)) (fun _ => I) (fun _ => E)
  notes : ∀ p message, I p →
    I { p with outside := p.outside.note .debug Record.derivations message }
  records : ∀ service input output : String,
    Ensures I (record scope service input output) (fun _ => I) (fun _ => E)
  gives_up : ∀ p, I p → E p

section

variable {scope : Scope} {I E : Pass S → Prop} (hresolves : Resolves scope I E)

include hresolves

theorem Resolves.note (message : String) :
    Ensures I (Step.job (Job.note .debug Record.derivations message)) (fun _ => I) (fun _ => E) :=
  ensures_job fun p hp => .returns (hresolves.notes p _ hp)

theorem Resolves.required (row : Row) (column : String) :
    Ensures I (Step.given (Derivation.required row column)) (fun _ => I) (fun _ => E) :=
  ensures_given (fun _ _ _ hp => hp) fun _ _ p hp => hresolves.gives_up p hp

theorem Resolves.resolveInput (row : Row) (service input output : String) :
    Ensures I (resolveInput scope row service input output) (fun _ => I) (fun _ => E) := by
  unfold Derivation.resolveInput
  split
  · exact hresolves.note _
  · refine (hresolves.selects (.ofInput _ _)).bind fun rows =>
      ensures_forM_keeping fun resolved _ => ?_
    exact (hresolves.required _ _).bind fun value => hresolves.records service input value

theorem Resolves.resolveLocal (row : Row) (service input output : String) :
    Ensures I (resolveLocal scope row service input output) (fun _ => I) (fun _ => E) := by
  unfold Derivation.resolveLocal
  refine (hresolves.required _ _).bind fun condition => ?_
  refine (hresolves.selects (.ofLocal _ _)).bind fun rows =>
    ensures_forM_keeping fun resolved _ => ?_
  refine (hresolves.required _ _).bind fun value => ?_
  split
  · exact hresolves.records service input value
  · exact ensures_pure fun _ hp => hp

theorem Resolves.deriveFormat (row : Row) (service input : String) (format : Row) :
    Ensures I (deriveFormat scope row service input format) (fun _ => I) (fun _ => E) := by
  unfold Derivation.deriveFormat
  refine (hresolves.required _ _).bind fun output => (hresolves.asks _).bind fun isFormat => ?_
  split
  · exact hresolves.note _
  · refine (hresolves.selects (.types _)).bind fun types => ?_
    split
    · exact hresolves.resolveInput row service input output
    · exact hresolves.resolveLocal row service input output
    · exact hresolves.records service input output

/-- When the instance of a class is typed, `J` holds of the class, and then its formats are looked
up. -/
theorem Resolves.deriveService {J : String → Pass S → Prop}
    (htypes : ∀ class_, Ensures I (typeInstance scope class_) (fun _ => J class_) (fun _ => E))
    (hformats : ∀ class_, Ensures (J class_)
      (Step.job (scope.working.select (Queries.formatOfClass class_))) (fun _ => I) (fun _ => E))
    (row : Row) : Ensures I (deriveService scope row) (fun _ => I) (fun _ => E) := by
  unfold Derivation.deriveService
  refine (hresolves.required _ _).bind fun service => (hresolves.required _ _).bind fun input => ?_
  refine (hresolves.required _ _).bind fun class_ => (htypes class_).bind fun _ => ?_
  refine (hformats class_).bind fun formats => ensures_forM_keeping fun format _ => ?_
  exact hresolves.deriveFormat row service input format

end

/-- The parts of a pass keep `I`, except that writing a transformation may fail with `E`.  What the
stores report goes into the log, and so does what the pass notes, all of it for debugging. -/
structure Upholds (scope : Scope) (writes : List Write) (I E : Pass S → Prop) : Prop where
  consults : ∀ {q : Question}, Consults scope writes q → ∀ p, I p →
    I { p with outside :=
      ⟨q.after p.outside.stores, p.outside.log.addAll (q.records p.outside.stores)⟩ }
  notes : ∀ p message, I p →
    I { p with outside := p.outside.note .debug Record.derivations message }
  types : ∀ p class_, I p → I { p with typed := class_ :: p.typed }
  records : ∀ service input output : String,
    Ensures I (record scope service input output) (fun _ => I) (fun _ => E)
  gives_up : ∀ p, I p → E p

section

variable {scope : Scope} {writes : List Write} {I E : Pass S → Prop}
  (hupholds : Upholds scope writes I E)

include hupholds

theorem Upholds.call {question : S → Response S α} {q : Question} (hq : Consults scope writes q)
    (hstate : ∀ s, (question s).state = q.after s)
    (hrecords : ∀ s, (question s).records = q.records s) :
    Ensures I (Step.job (Job.call question)) (fun _ => I) (fun _ => E) := by
  refine ensures_job fun p hp => ?_
  have hafter := hupholds.consults hq p hp
  rw [Job.call_apply, hstate, hrecords]
  cases (question p.outside.stores).result with
  | ok a => exact .returns hafter
  | error f => exact .fails (hupholds.gives_up _ hafter)

theorem Upholds.write {w : Write} (hq : Consults scope writes (.act scope.working (.write w))) :
    Ensures I (Step.job (scope.working.write w)) (fun _ => I) (fun _ => E) :=
  hupholds.call hq (fun _ => rfl) fun _ => rfl

theorem Upholds.commit :
    Ensures I (Step.job (commitWorking scope)) (fun _ => I) (fun _ => E) :=
  ensures_job_relabel (hupholds.call .commits (fun _ => rfl) fun _ => rfl)

theorem Upholds.select (text : String) :
    Ensures I (Step.job (scope.working.select text)) (fun _ => I) (fun _ => E) :=
  hupholds.call (.selects text) (fun _ => rfl) fun _ => rfl

theorem Upholds.ask (text : String) :
    Ensures I (Step.job (scope.working.ask text)) (fun _ => I) (fun _ => E) :=
  hupholds.call (.asks text) (fun _ => rfl) fun _ => rfl

theorem Upholds.resolves : Resolves scope I E where
  selects := fun {text} _ => hupholds.select text
  asks := hupholds.ask
  notes := hupholds.notes
  records := hupholds.records
  gives_up := hupholds.gives_up

theorem Upholds.given (value : Except Fault α) :
    Ensures I (Step.given value) (fun a p => value = .ok a ∧ I p) (fun _ => E) :=
  ensures_given (fun _ ha _ hp => ⟨ha, hp⟩) fun _ _ p hp => hupholds.gives_up p hp

theorem Upholds.replay {w : Write} (hw : w ∈ writes) :
    Ensures I (replay scope w) (fun _ => I) (fun _ => E) := by
  unfold Derivation.replay
  split
  · next hdata => exact (hupholds.write (.replays hw hdata)).bind fun _ => hupholds.commit
  · exact ensures_pure fun _ hp => hp

theorem Upholds.typeInstance (class_ : String) :
    Ensures I (typeInstance scope class_) (fun _ => I) (fun _ => E) := by
  unfold Derivation.typeInstance
  refine ensures_get.bind fun q => ?_
  split
  · exact ensures_pure fun _ hp => hp.2
  · refine ((hupholds.given _).mono (fun _ hp => hp.2) (fun _ _ h => h) fun _ _ h => h).bind
      fun name => Ensures.of_and fun hname => ?_
    refine (hupholds.write (.types hname)).bind fun _ => hupholds.commit.bind fun _ => ?_
    exact ensures_modify fun p hp => hupholds.types p class_ hp

theorem Upholds.deriveService (row : Row) :
    Ensures I (deriveService scope row) (fun _ => I) (fun _ => E) :=
  hupholds.resolves.deriveService (J := fun _ => I) hupholds.typeInstance
    (fun _ => hupholds.select _) row

theorem Upholds.pass : Ensures I (pass scope writes) (fun _ => I) (fun _ => E) := by
  unfold Derivation.pass
  refine (ensures_forM_keeping fun w hw => hupholds.replay hw).bind fun _ => ?_
  refine (hupholds.select _).bind fun services => ensures_forM_keeping fun row _ => ?_
  exact hupholds.deriveService row

end

/-- The parts of a pass keep `I` whatever becomes of the log, except that writing a transformation
may fail with `E`. -/
structure Keeps (scope : Scope) (writes : List Write) (I E : Pass S → Prop) : Prop where
  consults : ∀ {q : Question}, Consults scope writes q → ∀ p log, I p →
    I { p with outside := ⟨q.after p.outside.stores, log⟩ }
  notes : ∀ p log, I p → I { p with outside := ⟨p.outside.stores, log⟩ }
  types : ∀ p class_, I p → I { p with typed := class_ :: p.typed }
  records : ∀ service input output : String,
    Ensures I (record scope service input output) (fun _ => I) (fun _ => E)
  gives_up : ∀ p, I p → E p

theorem Keeps.upholds {scope : Scope} {writes : List Write} {I E : Pass S → Prop}
    (hkeeps : Keeps scope writes I E) : Upholds scope writes I E where
  consults := fun hq p hp => hkeeps.consults hq p _ hp
  notes := fun p _ hp => hkeeps.notes p _ hp
  types := hkeeps.types
  records := hkeeps.records
  gives_up := hkeeps.gives_up

/-- A predicate of the stores that the questions of a pass keep, also those that are refused. -/
theorem keeps_stores {scope : Scope} {writes : List Write} {P : S → Prop}
    (hconsults : ∀ {q : Question}, Consults scope writes q → ∀ s, P s → P (q.after s))
    (htarget : ∀ w s, P s → P (Backend.act s scope.target (.write w)).state) :
    Keeps scope writes (fun p => P p.outside.stores) (fun p => P p.outside.stores) where
  consults := fun hq p _ hp => hconsults hq p.outside.stores hp
  notes := fun _ _ hp => hp
  types := fun _ _ hp => hp
  records := ensures_record_keeping
    (fun _ => ensures_act (fun p hp => htarget _ p.outside.stores hp) fun _ hp => hp)
    (fun _ _ hp => hp) fun _ _ _ hp => hp
  gives_up := fun _ hp => hp

/-! ## From the pass to the report -/

/-- Cleans the working repository, shuts it down and reports. -/
def finish (scope : Scope) (derived : Except Fault Unit) (found : List Transformation) :
    Job S Report := do
  logFault ("materialization of context " ++ scope.context ++ " failed") derived
  let cleaned ← (clean scope).observe
  logFault "cannot clean the working repository" cleaned
  let shutDown ← (Job.call Backend.shutDownWorking).observe
  logFault "cannot shut down the working repository" shutDown
  let reported := shutDown.mapError fun f =>
    .derivation ("cannot shut down the working repository: " ++ f.message)
  match firstFault (firstFault derived cleaned) reported with
  | .error f => throw f
  | .ok _ =>
    Job.note .info Record.derivations
      ("derived " ++ toString found.length ++ " transformations from context " ++ scope.context)
    return ⟨scope.context, found⟩

theorem run_eq (target : ClientId) (context : String) (writes : List Write) :
    (run target context writes : Job S Report) = (do
      Job.note .debug Record.derivations ("materializing transformations of context " ++ context)
      let working ← (Job.call Backend.openWorking).relabel fun f =>
        .derivation ("cannot open the working repository: " ++ f.message)
      let (derived, found) ← runPass ⟨context, working, target⟩ writes
      finish ⟨context, working, target⟩ derived found) := rfl

/-- Nothing is derived if the working repository cannot be opened. -/
theorem run_of_unopened {target : ClientId} {context : String} {writes : List Write}
    {o : Outside S} {f : Fault} (hopen : (Backend.openWorking o.stores).result = .error f) :
    (run target context writes o).1 =
      .error (.derivation ("cannot open the working repository: " ++ f.message)) := by
  rw [run_eq, bind_apply, Job.note_apply]
  dsimp only
  rw [bind_apply, Job.relabel_apply, Job.call_apply, Outside.stores_note, hopen]
  rfl

omit [Backend S] in
theorem ensures_logFault {P : S → Prop} {E : Fault → Outside S → Prop} (heading : String)
    (result : Except Fault α) :
    Ensures (fun o => P o.stores) (logFault heading result : Job S Unit) (fun _ o => P o.stores)
      E := by
  cases result with
  | ok _ => exact ensures_pure fun _ ho => ho
  | error f => exact Job.ensures_note fun _ ho => ho

/-- What every question to the working repository keeps is kept when this is cleaned.  The first
question that is refused is the last one. -/
theorem ensures_clean {P E : S → Prop} {scope : Scope}
    (hkeeps : ∀ q s, q.client? = some scope.working → P s → P (Question.after s q))
    (hrefused : ∀ q s, q.client? = some scope.working → P s → Question.isAnswered s q = false →
      E (Question.after s q)) :
    Ensures (fun o => P o.stores) (clean scope) (fun _ o => P o.stores)
      (fun _ o => E o.stores) := by
  have hact : ∀ a : Action, Ensures (fun o : Outside S => P o.stores) (scope.working.act a)
      (fun _ o => P o.stores) (fun _ o => E o.stores) := fun a =>
    Job.ensures_call (E := fun _ s => E s) (fun s _ hs _ => hkeeps (.act scope.working a) s rfl hs)
      fun s _ hs hf => hrefused (.act scope.working a) s rfl hs (by
        change (Backend.act s scope.working a).result.isOk = false
        rw [hf]
        rfl)
  unfold clean
  refine Job.ensures_relabel ?_
  exact (hact _).bind fun _ => (hact _).bind fun _ => hact _

/-- The fault of the pass comes first.  What was found is reported if neither the pass nor what
comes after it has failed.  If only the latter has, then `L` holds. -/
theorem ensures_finish {P Q R L : S → Prop} {scope : Scope}
    (hclean : Ensures (fun o => P o.stores) (clean scope) (fun _ o => Q o.stores)
      fun _ o => L o.stores ∧ Q o.stores)
    (hshut : ∀ s, Q s → R (Backend.shutDownWorking s).state ∧
      ∀ f, (Backend.shutDownWorking s).result = .error f → L (Backend.shutDownWorking s).state)
    (hlost : ∀ s, L s → L (Backend.shutDownWorking s).state)
    (derived : Except Fault Unit) (found : List Transformation) :
    Ensures (fun o => P o.stores) (finish scope derived found)
      (fun report o => derived = .ok () ∧ report = ⟨scope.context, found⟩ ∧ R o.stores)
      (fun f o => (derived = .error f ∨ derived = .ok () ∧ L o.stores) ∧ R o.stores) := by
  unfold finish
  refine (ensures_logFault _ _).bind fun _ => ?_
  refine (Job.ensures_observe (R := fun cleaned o => (∀ f, cleaned = .error f → L o.stores) ∧
    Q o.stores) (hclean.mono (fun _ ho => ho) (fun _ _ ho => ⟨by simp, ho⟩)
      fun _ _ ho => ⟨fun _ _ => ho.1, ho.2⟩)).bind fun cleaned => ?_
  refine (ensures_logFault (P := fun s => (∀ f, cleaned = .error f → L s) ∧ Q s) _ _).bind
    fun _ => ?_
  -- what the cleaning has met with must not be lost while the repository is shut down
  have hclosed : Ensures
      (fun o : Outside S => (∀ f, cleaned = .error f → L o.stores) ∧ Q o.stores)
      (Job.call Backend.shutDownWorking)
      (fun _ o => (∀ f, cleaned = .error f → L o.stores) ∧ R o.stores)
      (fun _ o => (∀ f, cleaned = .error f → L o.stores) ∧ L o.stores ∧ R o.stores) :=
    Job.ensures_call (P := fun s => (∀ f, cleaned = .error f → L s) ∧ Q s)
      (Q := fun _ s => (∀ f, cleaned = .error f → L s) ∧ R s)
      (E := fun _ s => (∀ f, cleaned = .error f → L s) ∧ L s ∧ R s)
      (fun s _ hs _ => ⟨fun f hf => hlost s (hs.1 f hf), (hshut s hs.2).1⟩)
      fun s f hs hf => ⟨fun f hf => hlost s (hs.1 f hf), (hshut s hs.2).2 f hf, (hshut s hs.2).1⟩
  refine (Job.ensures_observe (R := fun shutDown o => (∀ f, cleaned = .error f → L o.stores) ∧
    (∀ f, shutDown = .error f → L o.stores) ∧ R o.stores) (hclosed.mono (fun _ ho => ho)
      (fun _ _ ho => ⟨ho.1, by simp, ho.2⟩)
      fun _ _ ho => ⟨ho.1, fun _ _ => ho.2.1, ho.2.2⟩)).bind fun shutDown => ?_
  refine (ensures_logFault (P := fun s => (∀ f, cleaned = .error f → L s) ∧
    (∀ f, shutDown = .error f → L s) ∧ R s) _ _).bind fun _ => ?_
  -- the faults in the order in which they count
  cases derived with
  | error f => exact ensures_throw fun _ ho => ⟨Or.inl rfl, ho.2.2⟩
  | ok _ =>
    cases cleaned with
    | error f => exact ensures_throw fun _ ho => ⟨Or.inr ⟨rfl, ho.1 f rfl⟩, ho.2.2⟩
    | ok _ =>
      cases shutDown with
      | error f => exact ensures_throw fun _ ho => ⟨Or.inr ⟨rfl, ho.2.1 f rfl⟩, ho.2.2⟩
      | ok _ =>
        refine Ensures.mono (P := fun o => R o.stores) ?_ (fun _ ho => ho.2.2)
          (fun _ _ ho => ho) fun _ _ ho => ho
        refine (Job.ensures_note (P := fun o => R o.stores) fun _ ho => ho).bind fun _ => ?_
        exact ensures_pure fun _ ho => ⟨rfl, rfl, ho⟩

/-- A derivation opens the working repository, or ends there; then it makes a pass and finishes.
Nothing is said of the log. -/
theorem ensures_run {P F L : S → Prop} {B : ClientId → S → Prop}
    {D C : ClientId → Except Fault Unit → List Transformation → S → Prop}
    {R : Except Fault Unit → List Transformation → S → Prop} (target : ClientId) (context : String)
    (writes : List Write)
    (hopen : ∀ s, P s → match (Backend.openWorking s).result with
      | .ok working => B working (Backend.openWorking s).state
      | .error _ => F (Backend.openWorking s).state)
    (hpass : ∀ working o, B working o.stores →
      EndsIn (fun _ p => D working (.ok ()) p.found p.outside.stores)
        (fun f p => D working (.error f) p.found p.outside.stores)
        (pass ⟨context, working, target⟩ writes { outside := o }))
    (hclean : ∀ working derived found,
      Ensures (fun o => D working derived found o.stores) (clean ⟨context, working, target⟩)
        (fun _ o => C working derived found o.stores)
        fun _ o => L o.stores ∧ C working derived found o.stores)
    (hshut : ∀ working derived found s, C working derived found s →
      R derived found (Backend.shutDownWorking s).state ∧
        ∀ f, (Backend.shutDownWorking s).result = .error f → L (Backend.shutDownWorking s).state)
    (hlost : ∀ s, L s → L (Backend.shutDownWorking s).state) :
    Ensures (fun o => P o.stores) (run target context writes)
      (fun report o => report.context = context ∧ R (.ok ()) report.transformations o.stores)
      (fun f o => F o.stores ∨ ∃ derived found,
        (derived = .error f ∨ derived = .ok () ∧ L o.stores) ∧ R derived found o.stores) := by
  rw [run_eq]
  refine (Job.ensures_note (P := fun o => P o.stores) fun _ ho => ho).bind fun _ => ?_
  have hopen' : Ensures (fun o : Outside S => P o.stores) (Job.call Backend.openWorking)
      (fun working o => B working o.stores) (fun _ o => F o.stores) := by
    refine Job.ensures_call (E := fun _ s => F s) (fun s working hs hresult => ?_)
      fun s f hs hresult => ?_
    · have hnext := hopen s hs
      rwa [hresult] at hnext
    · have hnext := hopen s hs
      rwa [hresult] at hnext
  refine (Job.ensures_relabel (hopen'.mono (fun _ ho => ho) (fun _ _ ho => ho)
    fun _ _ ho => Or.inl ho)).bind fun working => ?_
  -- the outcome of the pass is only kept here: the derivation goes on after a failed pass as well
  have hpassed : Ensures (fun o => B working o.stores) (runPass ⟨context, working, target⟩ writes)
      (fun done o => D working done.1 done.2 o.stores)
      (fun f o => F o.stores ∨ ∃ derived found,
        (derived = .error f ∨ derived = .ok () ∧ L o.stores) ∧ R derived found o.stores) := by
    intro o ho
    have hends := hpass working o ho
    unfold runPass
    generalize pass ⟨context, working, target⟩ writes { outside := o } = done at hends ⊢
    cases hends with
    | returns h => exact .returns h
    | fails h => exact .returns h
  refine hpassed.bind fun done => ?_
  obtain ⟨derived, found⟩ := done
  refine (ensures_finish (hclean working derived found) (hshut working derived found) hlost
    derived found).mono (fun _ ho => ho) ?_ fun f o ho => Or.inr ⟨derived, found, ho⟩
  rintro report o ⟨rfl, rfl, ho⟩
  exact ⟨rfl, ho⟩

end GraphCommit.Derivation
