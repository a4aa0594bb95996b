import GraphCommit.Proofs.Account
import GraphCommit.Proofs.Derivation.Pass
import GraphCommit.Scripted

/-!
# How a derivation ends

A derivation that has opened the working repository goes through three stages: it makes its pass,
cleans the working repository and shuts it down.  Each stage can fail, and none keeps the next one
from being reached.  Every stage that fails is told in the log, in order, and the fault of the first
one is returned (`first_failure_wins`).

Within the stages this is otherwise.  A pass ends with its first fault, and so does the cleaning: it
clears the context, commits and disconnects, but a step that is refused is the last one
(`sweeps_until_refused`).  So the client of the working repository is not always disconnected
(`disconnect_left_out`).
-/

namespace GraphCommit.Derivation

open Effect

variable {S : Type} [Backend S]

/-! ## The pass -/

/-- What a pass asks it asks the working repository or its target, and what it tells is for
debugging. -/
structure Works (scope : Scope) (o o' : Outside (Recorded S)) (consulted : List (Entry S))
    (said : List Record) : Prop where
  account : Account o o' consulted said
  clients : ∀ e ∈ consulted,
    e.question.client? = some scope.working ∨ e.question.client? = some scope.target
  debugs : ∀ r ∈ said, r.level = .debug

section

variable {scope : Scope} {writes : List Write} {o o' : Outside (Recorded S)}
  {consulted : List (Entry S)} {said : List Record}

theorem Works.asks (hworks : Works scope o o' consulted said) {q : Question}
    (hq : q.client? = some scope.working ∨ q.client? = some scope.target) :
    Works scope o ⟨q.after o'.stores, o'.log.addAll (q.records o'.stores)⟩
      (consulted ++ [⟨o'.stores.stores, q, q.isAnswered o'.stores.stores⟩]) said where
  account := by simpa using hworks.account.trans (Account.question o' q)
  clients := by
    intro e he
    rcases List.mem_append.mp he with hold | hnew
    · exact hworks.clients e hold
    · rw [List.mem_singleton.mp hnew]
      exact hq
  debugs := hworks.debugs

theorem Works.notes (hworks : Works scope o o' consulted said) (message : String) :
    Works scope o (o'.note .debug Record.derivations message) consulted
      (said ++ [⟨.debug, Record.derivations, message⟩]) where
  account := by simpa using hworks.account.trans (Account.note o' .debug _ message)
  clients := hworks.clients
  debugs := by
    intro r hr
    rcases List.mem_append.mp hr with hold | hnew
    · exact hworks.debugs r hold
    · rw [List.mem_singleton.mp hnew]

theorem upholds_works :
    Upholds scope writes (fun p => ∃ consulted said, Works scope o p.outside consulted said)
      (fun p => ∃ consulted said, Works scope o p.outside consulted said) where
  consults := fun hq _ ⟨_, _, hp⟩ => ⟨_, _, hp.asks (Or.inl hq.client_eq)⟩
  notes := fun _ message ⟨_, _, hp⟩ => ⟨_, _, hp.notes message⟩
  types := fun _ _ hp => hp
  records := by
    refine ensures_record_keeping (fun triple => ensures_act ?_ fun _ hp => hp)
      (fun _ message ⟨_, _, hp⟩ => ⟨_, _, hp.notes message⟩) fun _ _ _ hp => hp
    rintro p ⟨consulted, said, hp⟩
    exact ⟨_, _, hp.asks (q := .act scope.target (.write (.addTriple triple scope.context)))
      (Or.inr rfl)⟩
  gives_up := fun _ hp => hp

theorem works_pass (scope : Scope) (writes : List Write) (o : Outside (Recorded S)) :
    ∃ consulted said,
      Works scope o (pass scope writes { outside := o }).2.outside consulted said := by
  have hstart : Works scope o o [] [] := ⟨.refl o, by simp, by simp⟩
  have hends : EndsIn _ _ (pass scope writes { outside := o }) :=
    upholds_works.pass { outside := o } ⟨[], [], hstart⟩
  generalize pass scope writes { outside := o } = done at hends ⊢
  cases hends with
  | returns h => exact h
  | fails h => exact h

end

/-! ## The cleaning -/

/-- A fault in the words of a derivation. -/
def headed (heading : String) (f : Fault) : Fault := .derivation (heading ++ ": " ++ f.message)

def cannotOpen : String := "cannot open the working repository"
def cannotClean : String := "cannot clean the working repository"
def cannotShutDown : String := "cannot shut down the working repository"

/-- What the working repository is told when it is cleaned. -/
def sweeping (scope : Scope) : List Action := [.write (.clear scope.context), .commit, .disconnect]

theorem clean_eq (scope : Scope) :
    (clean scope : Job S Unit) =
      Job.relabel (headed cannotClean) ((sweeping scope).forM scope.working.act) := by
  have hsteps : ((sweeping scope).forM scope.working.act : Job S PUnit) =
      (do
        scope.working.act (.write (.clear scope.context))
        scope.working.act .commit
        scope.working.act .disconnect
        pure ⟨⟩) := rfl
  rw [hsteps, bind_pure_unit]
  rfl

/-- A stage has ended, perhaps with a fault. -/
def outcome (fault? : Option Fault) : Except Fault Unit := fault?.elim (.ok ()) .error

theorem account_clean (scope : Scope) (o : Outside (Recorded S)) :
    ∃ swept fault?, InTurn ((sweeping scope).map (.act scope.working)) swept fault? ∧
      (clean scope o).1 = outcome (fault?.map (headed cannotClean)) ∧
      Account o (clean scope o).2 swept [] := by
  obtain ⟨swept, fault?, hturns, houtcome, haccount⟩ := inTurn_acts scope.working (sweeping scope) o
  refine ⟨swept, fault?, hturns, ?_, ?_⟩
  · rw [clean_eq, Job.relabel_apply, houtcome]
    cases fault? <;> rfl
  · rw [clean_eq]
    exact haccount

/-! ## The stages -/

/-- What is told of a fault, if there is one. -/
def telling (heading : String) (fault? : Option Fault) : List Record :=
  (fault?.map fun f => ⟨.error, Record.derivations, heading ++ ": " ++ f.message⟩).toList

/-- The faults with which the pass, the cleaning and the shutdown ended, if they did. -/
structure Stages where
  derived : Option Fault
  swept : Option Fault
  shutDown : Option Fault

/-- A stage that failed: what the log tells of it and the fault that is returned for it. -/
structure Failure where
  heading : String
  told : Fault
  returned : Fault

def Failure.record (failure : Failure) : Record :=
  ⟨.error, Record.derivations, failure.heading ++ ": " ++ failure.told.message⟩

namespace Stages

def passFailed (context : String) (f : Fault) : Failure :=
  ⟨"materialization of context " ++ context ++ " failed", f, f⟩

def cleaningFailed (f : Fault) : Failure :=
  ⟨cannotClean, headed cannotClean f, headed cannotClean f⟩

def shutDownFailed (f : Fault) : Failure := ⟨cannotShutDown, f, headed cannotShutDown f⟩

/-- The stages that failed, the first one first.  The fault of the pass is returned as it is. -/
def failures (context : String) (stages : Stages) : List Failure :=
  (stages.derived.map (passFailed context)).toList ++ (stages.swept.map cleaningFailed).toList ++
    (stages.shutDown.map shutDownFailed).toList

/-- The fault of the first stage that failed. -/
def fault? (context : String) (stages : Stages) : Option Fault :=
  (stages.failures context).head?.map Failure.returned

variable (context : String) (stages : Stages)

theorem fault?_eq_none_iff :
    stages.fault? context = none ↔
      stages.derived = none ∧ stages.swept = none ∧ stages.shutDown = none := by
  obtain ⟨derived, swept, shutDown⟩ := stages
  cases derived <;> cases swept <;> cases shutDown <;> simp [fault?, failures]

/-- The faults of the stages, put into words as they are returned, give way to the first one. -/
theorem firstFault_eq :
    firstFault
      (firstFault (outcome stages.derived) (outcome (stages.swept.map (headed cannotClean))))
      ((outcome stages.shutDown).mapError (headed cannotShutDown)) =
        outcome (stages.fault? context) := by
  obtain ⟨derived, swept, shutDown⟩ := stages
  cases derived <;> cases swept <;> cases shutDown <;> rfl

/-- What the log is told are the failures. -/
theorem telling_eq :
    telling ("materialization of context " ++ context ++ " failed") stages.derived ++
      telling cannotClean (stages.swept.map (headed cannotClean)) ++
      telling cannotShutDown stages.shutDown = (stages.failures context).map Failure.record := by
  obtain ⟨derived, swept, shutDown⟩ := stages
  cases derived <;> cases swept <;> cases shutDown <;> rfl

/-- Failures are told as errors. -/
theorem errors_eq : ((stages.failures context).map Failure.record).filter (·.level = .error) =
    (stages.failures context).map Failure.record := by
  refine List.filter_eq_self.mpr fun r hr => ?_
  obtain ⟨failure, -, rfl⟩ := List.mem_map.mp hr
  rfl

end Stages

omit [Backend S] in
theorem result_eq_outcome {response : Response S Unit} :
    response.result = outcome response.fault? := by
  unfold Response.fault?
  cases response.result <;> rfl

theorem account_logFault (heading : String) (fault? : Option Fault) (o : Outside (Recorded S)) :
    ∃ o', logFault heading (outcome fault?) o = (.ok (), o') ∧
      Account o o' [] (telling heading fault?) := by
  cases fault? with
  | none => exact ⟨o, rfl, .refl o⟩
  | some f => exact ⟨_, rfl, .note o .error Record.derivations _⟩

/-- The end of a derivation: a fault, or the report. -/
def conclude (scope : Scope) (found : List Transformation) : Except Fault Unit → Job S Report
  | .error f => throw f
  | .ok _ => do
    Job.note .info Record.derivations
      ("derived " ++ toString found.length ++ " transformations from context " ++ scope.context)
    return ⟨scope.context, found⟩

theorem finish_eq (scope : Scope) (derived : Except Fault Unit) (found : List Transformation) :
    (finish scope derived found : Job S Report) = (do
      logFault ("materialization of context " ++ scope.context ++ " failed") derived
      let cleaned ← (clean scope).observe
      logFault cannotClean cleaned
      let shutDown ← (Job.call Backend.shutDownWorking).observe
      logFault cannotShutDown shutDown
      conclude scope found (firstFault (firstFault derived cleaned)
        (shutDown.mapError (headed cannotShutDown)))) := rfl

/-- Concluding puts no question and tells no error. -/
theorem account_conclude (scope : Scope) (found : List Transformation) (fault? : Option Fault)
    (o : Outside (Recorded S)) :
    (conclude scope found (outcome fault?) o).1 =
        fault?.elim (.ok ⟨scope.context, found⟩) .error ∧
      ∃ said, Account o (conclude scope found (outcome fault?) o).2 [] said ∧
        said.filter (·.level = .error) = [] := by
  cases fault? with
  | none => exact ⟨rfl, _, .note o .info Record.derivations _, rfl⟩
  | some f => exact ⟨rfl, [], .refl o, rfl⟩

/-- What follows on a pass: each stage is gone through and told, and then the derivation ends. -/
theorem account_finish (scope : Scope) (derived : Option Fault) (found : List Transformation)
    (o : Outside (Recorded S)) :
    ∃ swept closing, ∃ stages : Stages, ∃ o', stages.derived = derived ∧
      InTurn ((sweeping scope).map (.act scope.working)) swept stages.swept ∧
      closing.question = .shutDownWorking ∧ closing.refusal? = stages.shutDown ∧
      Account o o' (swept ++ [closing]) ((stages.failures scope.context).map Failure.record) ∧
      finish scope (outcome derived) found o =
        conclude scope found (outcome (stages.fault? scope.context)) o' := by
  -- the states are counted as `finish` goes through them; the second and the fourth need no name
  obtain ⟨o₁, hfirst, haccount₁⟩ :=
    account_logFault ("materialization of context " ++ scope.context ++ " failed") derived o
  obtain ⟨swept, swept?, hturns, hcleaned, haccount₂⟩ := account_clean scope o₁
  obtain ⟨o₃, hsecond, haccount₃⟩ :=
    account_logFault cannotClean (swept?.map (headed cannotClean)) (clean scope o₁).2
  obtain ⟨o₅, hthird, haccount₅⟩ := account_logFault cannotShutDown
    (Backend.shutDownWorking o₃.stores).fault?
    ⟨(Backend.shutDownWorking o₃.stores).state,
      o₃.log.addAll (Backend.shutDownWorking o₃.stores).records⟩
  refine ⟨swept, ⟨o₃.stores.stores, .shutDownWorking,
    Question.isAnswered o₃.stores.stores .shutDownWorking⟩,
    ⟨derived, swept?, (Backend.shutDownWorking o₃.stores).fault?⟩, o₅, rfl, hturns, rfl, rfl,
    ?_, ?_⟩
  · have haccount := (((haccount₁.trans haccount₂).trans haccount₃).trans
      (Account.question o₃ .shutDownWorking)).trans haccount₅
    rw [← Stages.telling_eq]
    simpa using haccount
  · rw [← Stages.firstFault_eq, finish_eq, bind_apply, hfirst]
    dsimp only
    rw [bind_apply, Job.observe_apply, hcleaned]
    dsimp only
    rw [bind_apply, hsecond]
    dsimp only
    rw [bind_apply, Job.observe_apply, Job.call_apply, result_eq_outcome]
    dsimp only
    rw [bind_apply, hthird]

/-! ## The whole derivation -/

/-- The record with which a derivation begins. -/
def beginning (context : String) : Record :=
  ⟨.debug, Record.derivations, "materializing transformations of context " ++ context⟩

/-- The stores and the log when the working repository was asked to open. -/
def opened (context : String) (o : Outside S) : Outside S :=
  ⟨(Backend.openWorking o.stores).state,
    (o.log.add (beginning context)).addAll (Backend.openWorking o.stores).records⟩

/-- The question that opens the working repository. -/
def opening (o : Outside (Recorded S)) : Entry S :=
  ⟨o.stores.stores, .openWorking, Question.isAnswered o.stores.stores .openWorking⟩

theorem account_opened (context : String) (o : Outside (Recorded S)) :
    Account o (opened context o) [opening o] [beginning context] :=
  (Account.note o .debug Record.derivations _).trans (.question _ .openWorking)

theorem run_apply (target : ClientId) (context : String) (writes : List Write) (o : Outside S) :
    run target context writes o =
      match (Backend.openWorking o.stores).result with
      | .error f => (.error (headed cannotOpen f), opened context o)
      | .ok working =>
        let done := pass ⟨context, working, target⟩ writes { outside := opened context o }
        finish ⟨context, working, target⟩ done.1 done.2.found done.2.outside := by
  rw [run_eq, bind_apply, Job.note_apply]
  dsimp only
  rw [bind_apply, Job.relabel_apply, Job.call_apply, Outside.stores_note]
  cases (Backend.openWorking o.stores).result with
  | error f => rfl
  | ok working => rfl

/-- How a derivation goes on that has opened the working repository: what its pass consults, what
the cleaning asks, and the shutdown. -/
structure Concludes (scope : Scope) (writes : List Write) (before after : Outside (Recorded S))
    (result : Except Fault Report) (consulted swept : List (Entry S)) (closing : Entry S)
    (said : List Record) (stages : Stages) : Prop where
  /-- The stages follow each other.  The last question of all shuts down, and no other one does. -/
  account : Account before after (consulted ++ swept ++ [closing]) said
  shuts : closing.question = .shutDownWorking
  once : ∀ e ∈ consulted ++ swept, e.question ≠ .shutDownWorking
  /-- The pass ends as it does without the rest, and has only clients do something. -/
  derived : (pass scope writes { outside := before }).1 = outcome stages.derived
  consults : (pass scope writes { outside := before }).2.outside.stores.history =
    before.stores.history ++ consulted
  clients : ∀ e ∈ consulted,
    e.question.client? = some scope.working ∨ e.question.client? = some scope.target
  /-- The cleaning and the shutdown fail with the fault by which a question of theirs is refused. -/
  sweeps : InTurn ((sweeping scope).map (.act scope.working)) swept stages.swept
  shutDown : closing.refusal? = stages.shutDown
  /-- A report is returned exactly if no stage failed. -/
  succeeds : (∃ report, result = .ok report) ↔
    stages.derived = none ∧ stages.swept = none ∧ stages.shutDown = none
  /-- What is returned is what the pass has found, or the fault of the first stage that failed. -/
  returns : result = match stages.fault? scope.context with
    | none => .ok ⟨scope.context, (pass scope writes { outside := before }).2.found⟩
    | some f => .error f
  /-- There is one error in the log for each stage that failed, in their order. -/
  tells : said.filter (·.level = .error) = (stages.failures scope.context).map Failure.record

theorem exists_outcome (result : Except Fault Unit) : ∃ fault?, result = outcome fault? := by
  cases result with
  | ok _ => exact ⟨none, rfl⟩
  | error f => exact ⟨some f, rfl⟩

/-- If the working repository is open, then the pass, the cleaning and the shutdown are all gone
through, whichever of them fail. -/
theorem concludes_run (target : ClientId) (context : String) (writes : List Write)
    {working : ClientId} {o : Outside (Recorded S)}
    (hopen : (Backend.openWorking o.stores).result = .ok working) :
    ∃ consulted swept closing said stages,
      Concludes ⟨context, working, target⟩ writes (opened context o)
        (run target context writes o).2 (run target context writes o).1
        consulted swept closing said stages := by
  have hrun := run_apply target context writes o
  rw [hopen] at hrun
  dsimp only at hrun
  obtain ⟨consulted, notes, hworks⟩ :=
    works_pass ⟨context, working, target⟩ writes (opened context o)
  obtain ⟨derived, hderived⟩ :=
    exists_outcome (pass ⟨context, working, target⟩ writes { outside := opened context o }).1
  rw [hderived] at hrun
  obtain ⟨swept, closing, stages, o', rfl, hturns, hshuts, hshut, haccount, hfinish⟩ :=
    account_finish ⟨context, working, target⟩ derived
      (pass ⟨context, working, target⟩ writes { outside := opened context o }).2.found
      (pass ⟨context, working, target⟩ writes { outside := opened context o }).2.outside
  obtain ⟨hresult, ending, hending, hquiet⟩ := account_conclude ⟨context, working, target⟩
    (pass ⟨context, working, target⟩ writes { outside := opened context o }).2.found
    (stages.fault? context) o'
  rw [← hfinish, ← hrun] at hresult hending
  -- the account of the pass, of what follows on it, and of the report
  have htotal := (hworks.account.trans haccount).trans hending
  rw [List.append_nil, ← List.append_assoc] at htotal
  have hnotes : notes.filter (·.level = .error) = [] :=
    List.filter_eq_nil_iff.mpr fun r hr => by simp [hworks.debugs r hr]
  refine ⟨consulted, swept, closing, _, stages, htotal, hshuts, ?_, hderived,
    hworks.account.history, hworks.clients, hturns, hshut, ?_, ?_, ?_⟩
  · -- neither the pass nor the cleaning shuts the repository down
    intro e he heq
    rcases List.mem_append.mp he with hconsulted | hswept
    · simpa [heq, Question.client?] using hworks.clients e hconsulted
    · obtain ⟨a, -, ha⟩ :=
        List.mem_map.mp (hturns.isPrefix.subset (List.mem_map_of_mem hswept))
      rw [heq] at ha
      contradiction
  · rw [hresult, ← stages.fault?_eq_none_iff context]
    cases stages.fault? context <;> simp
  · rw [hresult]
    cases stages.fault? context <;> rfl
  · rw [List.filter_append, List.filter_append, hnotes, hquiet, stages.errors_eq]
    simp

/-- A derivation opens the working repository, or ends there with a fault.  If it is open, then the
fault of the first stage that fails is returned, the others are told, and whatever has failed, the
last thing that is asked is the shutdown. -/
theorem first_failure_wins (target : ClientId) (context : String) (writes : List Write)
    (o : Outside (Recorded S)) :
    Account o (opened context o) [opening o] [beginning context] ∧
    match (Backend.openWorking o.stores).result with
    | .error f =>
      run target context writes o = (.error (headed cannotOpen f), opened context o)
    | .ok working =>
      ∃ consulted swept closing said stages,
        Concludes ⟨context, working, target⟩ writes (opened context o)
          (run target context writes o).2 (run target context writes o).1
          consulted swept closing said stages := by
  refine ⟨account_opened context o, ?_⟩
  cases hopen : (Backend.openWorking o.stores).result with
  | error f =>
    dsimp only
    rw [run_apply, hopen]
  | ok working => exact concludes_run target context writes hopen

/-! ## How far the cleaning comes -/

/-- What a derivation asks and tells when it has made its pass.  The context is cleared, and of the
commit and the disconnection each is asked for if what is to come before it was answered. -/
structure Sweeps (scope : Scope) (swept : List (Entry S)) (closing : Entry S) (said : List Record) :
    Prop where
  inOrder : swept.map Entry.question <+: (sweeping scope).map (.act scope.working)
  clears : ∃ e ∈ swept, e.question = .act scope.working (.write (.clear scope.context))
  complete : swept.map Entry.question = (sweeping scope).map (.act scope.working) ↔
    ∀ e ∈ swept, e.question ≠ .act scope.working .disconnect → e.refusal? = none
  /-- Nothing more is cleaned after a refusal, but the working repository is shut down. -/
  ends : ∀ e ∈ swept, ∀ f, e.refusal? = some f → swept.getLast? = some e
  shuts : closing.question = .shutDownWorking
  /-- What was refused is told. -/
  tells : ∀ e ∈ swept, ∀ f, e.refusal? = some f → (Stages.cleaningFailed f).record ∈ said
  tellsShutDown : ∀ f, closing.refusal? = some f → (Stages.shutDownFailed f).record ∈ said

theorem complete_iff {scope : Scope} {swept : List (Entry S)} {fault? : Option Fault}
    (hturns : InTurn ((sweeping scope).map (.act scope.working)) swept fault?) :
    swept.map Entry.question = (sweeping scope).map (.act scope.working) ↔
      ∀ e ∈ swept, e.question ≠ .act scope.working .disconnect → e.refusal? = none := by
  simp only [sweeping, List.map_cons, List.map_nil] at hturns ⊢
  cases hturns with
  | refused hcleared hrefused => simp [hcleared, hrefused]
  | answered hcleared hanswered hrest =>
    cases hrest with
    | refused hcommitted hrefused => simp [hcleared, hcommitted, hrefused]
    | answered hcommitted hanswered' hrest =>
      cases hrest with
      | refused hdisconnected _ => simp [hcleared, hcommitted, hdisconnected, hanswered, hanswered']
      | answered hdisconnected _ hrest =>
        cases hrest
        simp [hcleared, hcommitted, hdisconnected, hanswered, hanswered']

/-- After its pass a derivation clears the context of the working repository, and it commits and
disconnects as long as nothing is refused.  Whatever was refused is told, and the working repository
is shut down in any case. -/
theorem sweeps_until_refused (target working : ClientId) (context : String) (writes : List Write)
    (o : Outside (Recorded S)) (hopen : (Backend.openWorking o.stores).result = .ok working) :
    ∃ consulted swept closing said,
      Account (opened context o) (run target context writes o).2
        (consulted ++ swept ++ [closing]) said ∧
      (pass ⟨context, working, target⟩ writes
        { outside := opened context o }).2.outside.stores.history =
          (opened context o).stores.history ++ consulted ∧
      Sweeps ⟨context, working, target⟩ swept closing said := by
  obtain ⟨consulted, swept, closing, said, stages, hend⟩ :=
    concludes_run target context writes hopen
  have htold : ∀ failure ∈ stages.failures context, failure.record ∈ said := fun failure hmem =>
    (List.mem_filter.mp (hend.tells ▸ List.mem_map_of_mem hmem)).1
  refine ⟨consulted, swept, closing, said, hend.account, hend.consults, hend.sweeps.isPrefix,
    hend.sweeps.exists_first, complete_iff hend.sweeps,
    fun e he f hf => (hend.sweeps.refused_last he hf).2, hend.shuts,
    fun e he f hf => htold _ ?_, fun f hf => htold _ ?_⟩
  · have hswept := (hend.sweeps.refused_last he hf).1
    simp [Stages.failures, hswept]
  · have hshut := hend.shutDown.symm.trans hf
    simp [Stages.failures, hshut]

/-- Stores whose working repository refuses to clear a context. -/
def unclearable : Outside (Recorded Scripted) where
  stores :=
    { stores :=
        { working := { failures := [("clear_context", { fault := .connection "lost" })] }
          clients := [(.onCommit, {})] } }
  log := default

theorem sweeps_until_refused_unclearable :
    (Backend.openWorking unclearable.stores).result = .ok Scripted.workingClient ∧
    ∃ consulted swept closing said,
      Account (opened "urn:g" unclearable)
        (run (Scripted.mainClient 0) "urn:g" [] unclearable).2
        (consulted ++ swept ++ [closing]) said ∧
      (pass ⟨"urn:g", Scripted.workingClient, Scripted.mainClient 0⟩ []
        { outside := opened "urn:g" unclearable }).2.outside.stores.history =
          (opened "urn:g" unclearable).stores.history ++ consulted ∧
      Sweeps ⟨"urn:g", Scripted.workingClient, Scripted.mainClient 0⟩ swept closing said :=
  ⟨rfl, sweeps_until_refused (Scripted.mainClient 0) _ "urn:g" [] unclearable rfl⟩

/-- When the context cannot be cleared, nothing is committed, and the client of the working
repository is not disconnected before this is shut down. -/
theorem disconnect_left_out :
    ¬ ∀ (S : Type) [Backend S] (o : Outside (Recorded S)) (target working : ClientId)
      (context : String) (writes : List Write),
      (Backend.openWorking o.stores).result = .ok working →
      (sweeping ⟨context, working, target⟩).map (.act working) ++ [.shutDownWorking] <:+
        (run target context writes o).2.stores.history.map Entry.question := by
  intro hsweeps
  have hquestions := hsweeps Scripted unclearable (Scripted.mainClient 0) Scripted.workingClient
    "urn:g" [] rfl
  revert hquestions
  decide +kernel

end GraphCommit.Derivation
