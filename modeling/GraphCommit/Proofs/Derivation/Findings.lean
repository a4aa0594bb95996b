import GraphCommit.Proofs.Derivation.Target

/-!
# Which transformations are derived

What a derivation finds is a matter of what the working repository answers, and can be listed
without a pass: for each service, each format of its output class and each row that resolves the
format, the transformations that these allow (`findings`).  Where a row lacks a value that it must
have, or a class name has no local part, there is a fault in the list.

A derivation none of whose questions is refused reports this list, or its first fault, and has its
target describe the transformations before this fault, and do nothing else (`derives_findings`).
-/

namespace GraphCommit

/-! ## Refusals -/

namespace Recorded

variable {S : Type}

/-- Whether stores have refused to answer a question since they were `start`. -/
def HasRefused (start r : Recorded S) : Prop :=
  ∃ e ∈ r.history.drop start.history.length, e.answered = false

instance (start r : Recorded S) : Decidable (start.HasRefused r) :=
  inferInstanceAs (Decidable (∃ e ∈ r.history.drop start.history.length, e.answered = false))

variable [Backend S] {start r : Recorded S}

theorem prefix_after (hasked : start.history <+: r.history) (q : Question) :
    start.history <+: (q.after r).history := by
  rw [history_after]
  exact hasked.trans (List.prefix_append _ _)

theorem HasRefused.after (hrefused : start.HasRefused r) (q : Question) :
    start.HasRefused (q.after r) := by
  obtain ⟨e, he, hanswered⟩ := hrefused
  refine ⟨e, ?_, hanswered⟩
  rw [history_after, List.drop_append]
  exact List.mem_append_left _ he

theorem hasRefused_after (hasked : start.history <+: r.history) {q : Question}
    (hq : q.isAnswered r.stores = false) : start.HasRefused (q.after r) := by
  refine ⟨⟨r.stores, q, q.isAnswered r.stores⟩, ?_, hq⟩
  rw [history_after, List.drop_append_of_le_length hasked.length_le]
  exact List.mem_append_right _ List.mem_cons_self

end Recorded

namespace Derivation

open Effect

/-! ## Lists with faults -/

/-- Values in order, with faults in the place of values that are not there. -/
def Listing (α : Type) : Type := List (Except Fault α)

namespace Listing

variable {α β : Type}

def nothing : Listing α := ([] : List (Except Fault α))

def given (value : Except Fault α) : Listing α := [value]

/-- Each of some values. -/
def each (values : List α) : Listing α := values.map .ok

def append (l m : Listing α) : Listing α := List.append l m

/-- What there is for each value, in order.  Faults stay in their places. -/
protected def bind (l : Listing α) (f : α → Listing β) : Listing β :=
  List.flatMap (fun | .ok a => f a | .error e => given (.error e)) l

instance : Monad Listing where
  pure a := given (.ok a)
  bind := Listing.bind

/-- The values before the first fault. -/
def values : Listing α → List α
  | [] => []
  | .ok a :: rest => a :: values rest
  | .error _ :: _ => []

/-- The first fault, if there is one. -/
def fault? : Listing α → Option Fault
  | [] => none
  | .ok _ :: rest => fault? rest
  | .error f :: _ => some f

theorem values_append (l m : Listing α) :
    (l.append m).values = l.values ++ if l.fault?.isSome then [] else m.values := by
  induction l with
  | nil => rfl
  | cons value rest ih =>
    cases value with
    | ok a => exact congrArg (a :: ·) ih
    | error f => rfl

theorem fault?_append (l m : Listing α) : (l.append m).fault? = l.fault?.or m.fault? := by
  induction l with
  | nil => rfl
  | cons value rest ih =>
    cases value with
    | ok a => exact ih
    | error f => rfl

theorem given_bind (value : Except Fault α) (f : α → Listing β) :
    given value >>= f = match value with
      | .ok a => f a
      | .error e => given (.error e) := by
  cases value with
  | ok a => exact List.append_nil (f a)
  | error e => rfl

theorem each_bind_cons (a : α) (rest : List α) (f : α → Listing β) :
    each (a :: rest) >>= f = (f a).append (each rest >>= f) := rfl

end Listing

/-! ## What there is to be found -/

/-- What a working repository answers. -/
structure Answers where
  select : String → List Row
  ask : String → Bool

namespace Answers

open Listing

/-- The kind of a format is decided by the first of its types that is a parameter class. -/
def kind (types : List Row) : ParameterKind :=
  match (types.filterMap (·.get? Queries.typeColumn)).find? fun type =>
      type = Vocabulary.inputParameter ∨ type = Vocabulary.localParameter with
  | none => .direct
  | some type => if type = Vocabulary.inputParameter then .input else .local_

/-- The transformations of a service into one format of its output class. -/
def ofFormat (answers : Answers) (row : Row) (service input : String) (format : Row) :
    Listing Finding := do
  let output ← given (required format Queries.outputFormatColumn)
  if answers.ask (Queries.hasType output Vocabulary.fileFormat) then
    match kind (answers.select (Queries.typesOf output)) with
    | .input =>
      match row.get? Queries.formatConditionColumn with
      | none => nothing
      | some condition => do
        let resolved ← each (answers.select (Queries.outputOfInput condition output))
        let value ← given (required resolved Queries.outputColumn)
        return ⟨service, input, value⟩
    | .local_ => do
      let condition ← given (required row Queries.fileConditionColumn)
      let resolved ← each (answers.select (Queries.outputOfLocal condition output))
      let value ← given (required resolved Queries.outputColumn)
      if value = input then return ⟨service, input, input⟩ else nothing
    | .direct => return ⟨service, input, output⟩
  else nothing

/-- The transformations of one service description. -/
def ofService (answers : Answers) (row : Row) : Listing Finding := do
  let service ← given (required row Queries.serviceColumn)
  let input ← given (required row Queries.inputColumn)
  let class_ ← given (required row Queries.outputClassColumn)
  let _ ← given (instanceOf class_)
  let format ← each (answers.select (Queries.formatOfClass class_))
  answers.ofFormat row service input format

/-- The transformations of the services that are described in a context. -/
def findings (answers : Answers) (context : String) : Listing Finding := do
  let row ← each (answers.select (Queries.servicesInOut context))
  answers.ofService row

theorem ofTypes_eq_kind (types : List Row) : ParameterKind.ofTypes types = kind types := by
  induction types with
  | nil => rfl
  | cons row rest ih =>
    unfold ParameterKind.ofTypes
    cases htype : row.get? Queries.typeColumn with
    | none =>
      simp only [kind, List.filterMap_cons, htype]
      exact ih
    | some type =>
      simp only [kind, List.filterMap_cons, htype, List.find?_cons]
      by_cases hinput : type = Vocabulary.inputParameter
      · simp [hinput]
      · by_cases hlocal : type = Vocabulary.localParameter
        · subst hlocal
          simp [hinput]
        · simp only [hinput, hlocal, if_false, or_self, decide_false]
          exact ih

end Answers

/-! ## What a pass finds -/

variable {S α β : Type}

/-- In the states of the stores of which `P` holds, the working repository answers queries in one
and the same way, if it does not refuse to. -/
structure AnswersBy [Backend S] (P : S → Prop) (answers : Answers) (working : ClientId) : Prop where
  keeps : ∀ (q : Question) s, P s → P (q.after s)
  select : ∀ s text rows, P s → (Backend.select s working text).result = .ok rows →
    rows = answers.select text
  ask : ∀ s text answer, P s → (Backend.ask s working text).result = .ok answer →
    answer = answers.ask text

/-- A pass has not been refused anything so far. -/
structure Unrefused (P : S → Prop) (start : Recorded S) (p : Pass (Recorded S)) : Prop where
  stores : P p.outside.stores.stores
  asked : start.history <+: p.outside.stores.history
  typed : ∀ class_ ∈ p.typed, ∃ name, instanceOf class_ = .ok name

/-- A pass has found some transformations, and it has not been refused anything. -/
structure Found (P : S → Prop) (start : Recorded S) (scope : Scope) (done : List Finding)
    (p : Pass (Recorded S)) : Prop
    extends Reached scope (start.calls scope.target) done p, Unrefused P start p

/-- A step that finds nothing returns this value or this fault, unless it is refused something. -/
def Computes (P : S → Prop) (start : Recorded S) (scope : Scope) (x : Step (Recorded S) α)
    (value : Except Fault α) : Prop :=
  ∀ done, Ensures (Found P start scope done) x
    (fun a p => value = .ok a ∧ Found P start scope done p)
    (fun f p => start.HasRefused p.outside.stores ∨
      value = .error f ∧ Found P start scope done p)

/-- A step finds what is listed, up to the first fault, unless it is refused something. -/
def Lists (P : S → Prop) (start : Recorded S) (scope : Scope) (x : Step (Recorded S) Unit)
    (l : Listing Finding) : Prop :=
  ∀ done, Ensures (Found P start scope done) x
    (fun _ p => l.fault? = none ∧ Found P start scope (done ++ l.values) p)
    (fun f p => start.HasRefused p.outside.stores ∨
      l.fault? = some f ∧ Found P start scope (done ++ l.values) p)

section

open Listing

variable {P : S → Prop} {start : Recorded S} {scope : Scope}

theorem Computes.then {x : Step (Recorded S) α} {value : Except Fault α}
    {f : α → Step (Recorded S) Unit} {g : α → Listing Finding}
    (hx : Computes P start scope x value) (hf : ∀ a, Lists P start scope (f a) (g a)) :
    Lists P start scope (x >>= f) (given value >>= g) := by
  intro done
  rw [given_bind]
  refine ((hx done).mono (fun _ hp => hp) (fun _ _ h => h) ?_).bind fun a =>
    Ensures.of_and fun hvalue => ?_
  · rintro f p (h | ⟨rfl, hp⟩)
    · exact Or.inl h
    · exact Or.inr ⟨rfl, by simpa [given, values] using hp⟩
  · rw [hvalue]
    exact hf a done

/-- After a step that returns what is known. -/
theorem Computes.next {x : Step (Recorded S) α} {a : α} {f : α → Step (Recorded S) Unit}
    {l : Listing Finding} (hx : Computes P start scope x (.ok a))
    (hf : Lists P start scope (f a) l) : Lists P start scope (x >>= f) l := by
  intro done
  refine ((hx done).mono (fun _ hp => hp) (fun _ _ h => h) ?_).bind fun b =>
    Ensures.of_and fun hvalue => ?_
  · rintro f p (h | ⟨hvalue, -⟩)
    · exact Or.inl h
    · contradiction
  · obtain rfl := Except.ok.inj hvalue
    exact hf done

theorem computes_given (value : Except Fault α) :
    Computes P start scope (Step.given value) value := fun _ =>
  ensures_given (fun _ ha _ hp => ⟨ha, hp⟩) fun _ hf _ hp => Or.inr ⟨hf, hp⟩

theorem computes_note (level : Level) (message : String) :
    Computes P start scope (Step.job (Job.note level Record.derivations message)) (.ok ()) :=
  fun _ => ensures_job fun _ hp => .returns
    ⟨rfl, ⟨hp.found, hp.counter, hp.calls⟩, ⟨hp.stores, hp.asked, hp.typed⟩⟩

theorem lists_nothing : Lists P start scope (pure ()) nothing := fun done =>
  ensures_pure fun _ hp => ⟨rfl, by simpa [nothing, values] using hp⟩

theorem Computes.lists_nothing {x : Step (Recorded S) Unit}
    (hx : Computes P start scope x (.ok ())) : Lists P start scope x nothing := by
  intro done
  refine (hx done).mono (fun _ hp => hp) (fun _ p hp => ⟨rfl, ?_⟩) ?_
  · simpa [nothing, values] using hp.2
  · rintro f p (h | ⟨hvalue, -⟩)
    · exact Or.inl h
    · contradiction

theorem Lists.append {x : Step (Recorded S) Unit} {y : Unit → Step (Recorded S) Unit}
    {l m : Listing Finding} (hx : Lists P start scope x l) (hy : Lists P start scope (y ()) m) :
    Lists P start scope (x >>= y) (l.append m) := by
  intro done
  rw [values_append, fault?_append]
  refine ((hx done).mono (fun _ hp => hp) (fun _ _ h => h) ?_).bind fun _ =>
    Ensures.of_and fun hnone => ?_
  · rintro f p (h | ⟨hfault, hp⟩)
    · exact Or.inl h
    · exact Or.inr ⟨by simp [hfault], by simpa [hfault] using hp⟩
  · simpa [hnone, ← List.append_assoc] using hy (done ++ l.values)

theorem Lists.each {rows : List α} {f : α → Step (Recorded S) Unit} {g : α → Listing Finding}
    (hf : ∀ a, Lists P start scope (f a) (g a)) :
    Lists P start scope (rows.forM f) (each rows >>= g) := by
  induction rows with
  | nil => exact lists_nothing
  | cons a rest ih =>
    rw [each_bind_cons]
    exact (hf a).append ih

theorem Computes.bind {x : Step (Recorded S) α} {value : Except Fault α}
    {f : α → Step (Recorded S) β} {g : α → Except Fault β} (hx : Computes P start scope x value)
    (hf : ∀ a, value = .ok a → Computes P start scope (f a) (g a)) :
    Computes P start scope (x >>= f) (value >>= g) := by
  intro done
  refine ((hx done).mono (fun _ hp => hp) (fun _ _ h => h) ?_).bind fun a =>
    Ensures.of_and fun hvalue => ?_
  · rintro f p (h | ⟨rfl, hp⟩)
    · exact Or.inl h
    · exact Or.inr ⟨rfl, hp⟩
  · rw [hvalue]
    exact hf a hvalue done

variable [Backend S] {answers : Answers} (hanswers : AnswersBy P answers scope.working)
  (hother : scope.working ≠ scope.target)

include hanswers hother

/-- A question to the working repository is no call of the target. -/
theorem computes_call {question : Recorded S → Response (Recorded S) α} {q : Question} {a : α}
    (hclient : q.client? = some scope.working) (hstate : ∀ r, (question r).state = q.after r)
    (hanswered : ∀ r, (question r).result.isOk = q.isAnswered r.stores)
    (hvalue : ∀ r b, P r.stores → (question r).result = .ok b → b = a) :
    Computes P start scope (Step.job (Job.call question)) (.ok a) := by
  have htarget : q.client? ≠ some scope.target := by
    rw [hclient]
    exact fun heq => hother (Option.some.inj heq)
  refine fun done => ensures_job fun p hp => ?_
  rw [Job.call_apply, hstate]
  cases hresult : (question p.outside.stores).result with
  | ok b =>
    obtain rfl := hvalue _ b hp.stores hresult
    refine .returns ⟨rfl, ⟨hp.found, hp.counter, ?_⟩, ⟨?_, ?_, hp.typed⟩⟩
    · exact (Recorded.calls_after_of_ne htarget _).trans hp.calls
    · change P (q.after p.outside.stores).stores
      rw [Recorded.stores_after]
      exact hanswers.keeps q _ hp.stores
    · exact Recorded.prefix_after hp.asked q
  | error f =>
    refine .fails (Or.inl (Recorded.hasRefused_after hp.asked ?_))
    rw [← hanswered, hresult]
    rfl

theorem computes_write (w : Write) :
    Computes P start scope (Step.job (scope.working.write w)) (.ok ()) :=
  computes_call hanswers hother (q := .act scope.working (.write w)) rfl (fun _ => rfl)
    (fun _ => rfl) fun _ _ _ _ => rfl

theorem computes_commit : Computes P start scope (Step.job (commitWorking scope)) (.ok ()) := by
  have hcommit : Computes P start scope (Step.job (scope.working.act .commit)) (.ok ()) :=
    computes_call hanswers hother (q := .act scope.working .commit) rfl (fun _ => rfl)
      (fun _ => rfl) fun _ _ _ _ => rfl
  refine fun done => ensures_job_relabel ((hcommit done).mono (fun _ hp => hp) (fun _ _ h => h) ?_)
  rintro f p (h | ⟨hvalue, -⟩)
  · exact Or.inl h
  · contradiction

theorem computes_select (text : String) :
    Computes P start scope (Step.job (scope.working.select text)) (.ok (answers.select text)) :=
  computes_call hanswers hother (q := .select scope.working text) rfl (fun _ => rfl)
    (fun _ => rfl) fun r rows hr hrows => hanswers.select r.stores text rows hr hrows

theorem computes_ask (text : String) :
    Computes P start scope (Step.job (scope.working.ask text)) (.ok (answers.ask text)) :=
  computes_call hanswers hother (q := .ask scope.working text) rfl (fun _ => rfl)
    (fun _ => rfl) fun r answer hr hanswer => hanswers.ask r.stores text answer hr hanswer

theorem computes_typeInstance (class_ : String) :
    Computes P start scope (typeInstance scope class_)
      (instanceOf class_ >>= fun _ => Except.ok ()) := by
  have hnew : Computes P start scope (do
      let name ← Step.given (instanceOf class_)
      Step.job (scope.working.write (.addTriple ⟨name, Vocabulary.type, class_⟩ scope.context))
      Step.job (commitWorking scope)
      modify fun pass => { pass with typed := class_ :: pass.typed } : Step (Recorded S) Unit)
      (instanceOf class_ >>= fun _ => Except.ok ()) := by
    refine (computes_given _).bind fun name hname => ?_
    refine (computes_write hanswers hother _).bind (g := fun _ => .ok ()) fun _ _ => ?_
    refine (computes_commit hanswers hother).bind (g := fun _ => .ok ()) fun _ _ => ?_
    refine fun done => (ensures_modify (R := Found P start scope done) fun p hp =>
      ⟨⟨hp.found, hp.counter, hp.calls⟩, hp.stores, hp.asked, ?_⟩).mono (fun _ hp => hp)
        (fun _ _ hp => ⟨rfl, hp⟩) fun _ _ h => h
    intro other htyped
    rcases List.mem_cons.mp htyped with rfl | hold
    · exact ⟨name, hname⟩
    · exact hp.typed other hold
  intro done
  unfold typeInstance
  refine ensures_get.bind fun q => ?_
  split
  -- a class that was typed before has a name, so nothing is lost by not asking for it again
  · next hcached =>
    refine ensures_pure ?_
    rintro p ⟨rfl, hp⟩
    obtain ⟨name, hname⟩ := hp.typed class_ (by simpa using hcached)
    exact ⟨by rw [hname]; rfl, hp⟩
  · exact (hnew done).mono (fun _ hp => hp.2) (fun _ _ h => h) fun _ _ h => h

omit hother in
/-- As long as nothing is refused, the triples of a transformation are all written. -/
theorem ensures_record_unrefused (service input output : String) :
    Ensures (Unrefused P start) (record scope service input output)
      (fun _ => Unrefused P start) (fun _ p => start.HasRefused p.outside.stores) := by
  have hwrite : ∀ triple : Triple, Ensures (Unrefused P start)
      (Step.job (scope.target.write (.addTriple triple scope.context)))
      (fun _ => Unrefused P start) (fun _ p => start.HasRefused p.outside.stores) := by
    intro triple
    refine ensures_job fun p hp => ?_
    have hstate : (Backend.act p.outside.stores scope.target
        (.write (.addTriple triple scope.context))).state =
        (writing scope.target scope.context triple).after p.outside.stores := rfl
    have hanswered : (Backend.act p.outside.stores scope.target
        (.write (.addTriple triple scope.context))).result.isOk =
        (writing scope.target scope.context triple).isAnswered p.outside.stores.stores := rfl
    rw [ClientId.write, ClientId.act_apply, hstate]
    cases hresult : (Backend.act p.outside.stores scope.target
      (.write (.addTriple triple scope.context))).result with
    | ok _ =>
      refine .returns ⟨?_, Recorded.prefix_after hp.asked _, hp.typed⟩
      change P ((writing scope.target scope.context triple).after p.outside.stores).stores
      rw [Recorded.stores_after]
      exact hanswers.keeps _ _ hp.stores
    | error f =>
      refine .fails (Recorded.hasRefused_after hp.asked ?_)
      rw [← hanswered, hresult]
      rfl
  exact ensures_record_keeping hwrite (fun p _ hp => ⟨hp.stores, hp.asked, hp.typed⟩)
    (fun p _ _ hp => ⟨hp.stores, hp.asked, hp.typed⟩) service input output

omit hother in
theorem lists_record (service input output : String) :
    Lists P start scope (record scope service input output)
      (pure (⟨service, input, output⟩ : Finding)) := by
  intro done
  refine ((ensures_record service input output).and
    (ensures_record_unrefused hanswers service input output)).mono
    (fun p hp => ⟨hp.toReached, hp.toUnrefused⟩) (fun _ p hp => ⟨rfl, hp.1, hp.2⟩)
    fun _ p hp => Or.inl hp.2

theorem lists_format (row : Row) (service input : String) (format : Row) :
    Lists P start scope (deriveFormat scope row service input format)
      (answers.ofFormat row service input format) := by
  unfold deriveFormat Answers.ofFormat
  refine (computes_given _).then fun output => ?_
  refine (computes_ask hanswers hother _).next ?_
  cases answers.ask (Queries.hasType output Vocabulary.fileFormat) with
  | false => exact (computes_note _ _).lists_nothing
  | true =>
    refine (computes_select hanswers hother _).next ?_
    rw [Answers.ofTypes_eq_kind]
    cases Answers.kind (answers.select (Queries.typesOf output)) with
    | input =>
      change Lists P start scope (resolveInput scope row service input output) _
      unfold resolveInput
      cases row.get? Queries.formatConditionColumn with
      | none => exact (computes_note _ _).lists_nothing
      | some condition =>
        refine (computes_select hanswers hother _).next (Lists.each fun resolved => ?_)
        exact (computes_given _).then fun value => lists_record hanswers service input value
    | local_ =>
      change Lists P start scope (resolveLocal scope row service input output) _
      unfold resolveLocal
      refine (computes_given _).then fun condition => ?_
      refine (computes_select hanswers hother _).next (Lists.each fun resolved => ?_)
      refine (computes_given _).then fun value => ?_
      split
      · next heq =>
        rw [heq]
        exact lists_record hanswers service input input
      · exact lists_nothing
    | direct => exact lists_record hanswers service input output

theorem lists_service (row : Row) :
    Lists P start scope (deriveService scope row) (answers.ofService row) := by
  unfold deriveService Answers.ofService
  refine (computes_given _).then fun service => (computes_given _).then fun input => ?_
  refine (computes_given _).then fun class_ => ?_
  have hlisting : ∀ l : Listing Finding, (given (instanceOf class_) >>= fun _ => l) =
      given (instanceOf class_ >>= fun _ => Except.ok ()) >>= fun _ => l := by
    intro l
    cases instanceOf class_ <;> rfl
  rw [hlisting]
  refine (computes_typeInstance hanswers hother class_).then fun _ => ?_
  refine (computes_select hanswers hother _).next (Lists.each fun format => ?_)
  exact lists_format hanswers hother row service input format

theorem computes_replay (w : Write) : Computes P start scope (replay scope w) (.ok ()) := by
  unfold replay
  split
  · exact (computes_write hanswers hother w).bind (g := fun _ => .ok ())
      fun _ _ => computes_commit hanswers hother
  · exact fun done => ensures_pure fun _ hp => ⟨rfl, hp⟩

theorem lists_pass (writes : List Write) :
    Lists P start scope (pass scope writes) (answers.findings scope.context) := by
  have hreplays : Computes P start scope (writes.forM (replay scope)) (.ok ()) := by
    refine fun done => Ensures.mono (Q := fun _ => Found P start scope done)
      (E := fun _ p => start.HasRefused p.outside.stores) (ensures_forM_keeping fun w _ => ?_)
      (fun _ hp => hp) (fun _ _ hp => ⟨rfl, hp⟩) fun _ _ hp => Or.inl hp
    refine (computes_replay hanswers hother w done).mono (fun _ hp => hp) (fun _ _ hp => hp.2) ?_
    rintro f p (h | ⟨hvalue, -⟩)
    · exact h
    · contradiction
  unfold pass Answers.findings
  refine hreplays.next ((computes_select hanswers hother _).next (Lists.each fun row => ?_))
  exact lists_service hanswers hother row

end

/-- What a derivation reports if nothing is refused. -/
def Answers.report (answers : Answers) (context : String) : Except Fault Report :=
  match (answers.findings context).fault? with
  | none => .ok ⟨context, named (answers.findings context).values⟩
  | some f => .error f

/-- A pass has ended as it should, or it was refused something. -/
def EndsAsListed (start : Recorded S) (target : ClientId) (l : Listing Finding) (context : String)
    (derived : Except Fault Unit) (found : List Transformation) (r : Recorded S) : Prop :=
  start.HasRefused r ∨
    start.history <+: r.history ∧ found = named l.values ∧
    r.calls target =
      start.calls target ++ (named l.values).flatMap (describing target context) ∧
    derived = match l.fault? with
      | none => .ok ()
      | some f => .error f

section

variable [Backend S] {start r : Recorded S} {target : ClientId} {l : Listing Finding}
  {context : String} {derived : Except Fault Unit} {found : List Transformation}

theorem EndsAsListed.after (hends : EndsAsListed start target l context derived found r)
    {q : Question} (hq : q.client? ≠ some target) :
    EndsAsListed start target l context derived found (q.after r) := by
  rcases hends with hrefused | ⟨hasked, hfound, hcalls, hderived⟩
  · exact Or.inl (hrefused.after q)
  · exact Or.inr ⟨Recorded.prefix_after hasked q, hfound,
      (Recorded.calls_after_of_ne hq r).trans hcalls, hderived⟩

theorem EndsAsListed.refused (hends : EndsAsListed start target l context derived found r)
    {q : Question} (hq : q.isAnswered r = false) : start.HasRefused (q.after r) := by
  rcases hends with hrefused | ⟨hasked, -⟩
  · exact hrefused.after q
  · exact Recorded.hasRefused_after hasked (by cases q <;> exact hq)

end

/-- A derivation ends as it should, or it was refused something. -/
theorem ends_as_listed [Backend S] {P : S → Prop} {answers : Answers} {working target : ClientId}
    (hanswers : AnswersBy P answers working) (hother : working ≠ target) (r : Recorded S)
    (hr : P r.stores) (hopen : (Backend.openWorking r.stores).result = .ok working) (log : Log)
    (context : String) (writes : List Write) :
    EndsIn (fun report o => report.context = context ∧
        EndsAsListed r target (answers.findings context) context (.ok ()) report.transformations
          o.stores)
      (fun f o => ∃ derived found, (derived = .error f ∨ derived = .ok () ∧ r.HasRefused o.stores) ∧
        EndsAsListed r target (answers.findings context) context derived found o.stores)
      (run target context writes ⟨r, log⟩) := by
  refine (ensures_run target context writes (P := (· = r)) (F := fun _ => False)
    (B := fun k s => k = working ∧ P s.stores ∧ r.history <+: s.history ∧
      s.calls target = r.calls target)
    (D := fun k derived found s => k = working ∧
      EndsAsListed r target (answers.findings context) context derived found s)
    (C := fun k derived found s => k = working ∧
      EndsAsListed r target (answers.findings context) context derived found s)
    (R := EndsAsListed r target (answers.findings context) context) (L := r.HasRefused)
    ?_ ?_ ?_ ?_ (fun s hs => hs.after .shutDownWorking) ⟨r, log⟩ rfl).mono (fun _ _ h => h)
    fun f o h => h.resolve_left id
  -- opening the working repository is no call of the target
  · rintro s rfl
    rw [show (Backend.openWorking s).result = .ok working from hopen]
    refine ⟨rfl, ?_, Recorded.prefix_after (List.prefix_refl _) .openWorking,
      Recorded.calls_after_of_ne (q := .openWorking) (by simp [Question.client?]) s⟩
    exact hanswers.keeps .openWorking _ hr
  · rintro k o ⟨rfl, hstores, hasked, hcalls⟩
    have hstart : Found P r ⟨context, k, target⟩ [] { outside := o } :=
      ⟨⟨rfl, fun _ => rfl, by simpa using hcalls⟩, hstores, hasked, by simp⟩
    have hpass : Lists P r ⟨context, k, target⟩ (pass ⟨context, k, target⟩ writes)
        (answers.findings context) := lists_pass hanswers hother writes
    refine (hpass [] _ hstart).mono ?_ ?_
    · rintro _ p ⟨hnone, hp⟩
      refine ⟨rfl, Or.inr ⟨hp.asked, hp.found, hp.calls, ?_⟩⟩
      rw [show (answers.findings context).fault? = none from hnone]
    · rintro f p (h | ⟨hfault, hp⟩)
      · exact ⟨rfl, Or.inl h⟩
      · refine ⟨rfl, Or.inr ⟨hp.asked, hp.found, hp.calls, ?_⟩⟩
        rw [show (answers.findings context).fault? = some f from hfault]
  · intro k derived found
    have hclient : ∀ q : Question, q.client? = some k → k = working → q.client? ≠ some target := by
      rintro q hq rfl
      rw [hq]
      exact fun heq => hother (Option.some.inj heq)
    refine ensures_clean (P := fun s => k = working ∧
        EndsAsListed r target (answers.findings context) context derived found s)
      (E := fun s => r.HasRefused s ∧ k = working ∧
        EndsAsListed r target (answers.findings context) context derived found s) ?_ ?_
    · rintro q s hq ⟨hworking, hs⟩
      exact ⟨hworking, hs.after (hclient q hq hworking)⟩
    · rintro q s hq ⟨hworking, hs⟩ hanswered
      exact ⟨hs.refused hanswered, hworking, hs.after (hclient q hq hworking)⟩
  · rintro k derived found s ⟨-, hs⟩
    refine ⟨hs.after (q := .shutDownWorking) (by simp [Question.client?]), fun f hf => ?_⟩
    refine hs.refused (q := .shutDownWorking) ?_
    change (Backend.shutDownWorking s).result.isOk = false
    rw [hf]
    rfl

/-- The working repository answers queries as a function of their texts, and nothing that a
derivation asks is refused.  Then it reports what there is to be found, or the first fault in it.
Its target has been given the four triples of each transformation before this fault, in order, and
nothing else. -/
theorem derives_findings [Backend S] {P : S → Prop} {answers : Answers} {working target : ClientId}
    (hanswers : AnswersBy P answers working) (hother : working ≠ target) (r : Recorded S)
    (hr : P r.stores) (hopen : (Backend.openWorking r.stores).result = .ok working) (log : Log)
    (context : String) (writes : List Write)
    (hrefused : ¬ r.HasRefused (run target context writes ⟨r, log⟩).2.stores) :
    (run target context writes ⟨r, log⟩).1 = answers.report context ∧
    (run target context writes ⟨r, log⟩).2.stores.calls target = r.calls target ++
      (named (answers.findings context).values).flatMap (describing target context) := by
  have hends := ends_as_listed hanswers hother r hr hopen log context writes
  unfold Answers.report
  generalize run target context writes ⟨r, log⟩ = done at hends hrefused ⊢
  cases hends with
  | @returns report o h =>
    obtain ⟨hcontext, hlisted⟩ := h
    obtain ⟨-, hfound, hcalls, hderived⟩ := hlisted.resolve_left hrefused
    refine ⟨?_, hcalls⟩
    cases hfault : (answers.findings context).fault? with
    | none => rw [← hfound, ← hcontext]
    | some f =>
      rw [hfault] at hderived
      contradiction
  | fails h =>
    obtain ⟨derived, found, houtcome, hlisted⟩ := h
    obtain ⟨-, -, hcalls, hderived⟩ := hlisted.resolve_left hrefused
    refine ⟨?_, hcalls⟩
    -- nothing was refused, so the fault is one in what was found
    obtain rfl := houtcome.resolve_right fun h => hrefused h.2
    cases hfault : (answers.findings context).fault? with
    | none =>
      rw [hfault] at hderived
      contradiction
    | some f =>
      rw [hfault] at hderived
      rw [Except.error.inj hderived]

/-! ## Scripted answers -/

/-- What the working repository of scripted stores answers. -/
def scriptedAnswers (s : Scripted) : Answers where
  select text := (s.working.selects.lookup text).getD []
  ask text := (s.working.asks.lookup text).getD true

theorem answersBy_scripted (s : Scripted) :
    AnswersBy (fun t : Scripted => Scripted.SameAnswers t.working s.working) (scriptedAnswers s)
      Scripted.workingClient where
  keeps q t ht := (Scripted.sameAnswers_after t q).trans ht
  select t text rows ht hrows := by
    have hprepared : rows = (t.working.selects.lookup text).getD [] :=
      Scripted.select_eq_ok (s := t.working) hrows
    rw [hprepared, ht.1]
    rfl
  ask t text answer ht hanswer := by
    have hprepared : answer = (t.working.asks.lookup text).getD true :=
      Scripted.ask_eq_ok (s := t.working) hanswer
    rw [hprepared, ht.2]
    rfl

theorem derives_findings_service :
    AnswersBy (fun t : Scripted => Scripted.SameAnswers t.working
        (describedService "urn:pdf").stores.working)
      (scriptedAnswers (describedService "urn:pdf").stores) Scripted.workingClient ∧
    Scripted.workingClient ≠ Scripted.mainClient 0 ∧
    (Backend.openWorking (describedService "urn:pdf").stores).result = .ok Scripted.workingClient ∧
    ¬ (describedService "urn:pdf").HasRefused (run (Scripted.mainClient 0) "urn:g" oneDocument
      ⟨describedService "urn:pdf", default⟩).2.stores ∧
    (run (Scripted.mainClient 0) "urn:g" oneDocument ⟨describedService "urn:pdf", default⟩).1 =
      (scriptedAnswers (describedService "urn:pdf").stores).report "urn:g" ∧
    (run (Scripted.mainClient 0) "urn:g" oneDocument
      ⟨describedService "urn:pdf", default⟩).2.stores.calls (Scripted.mainClient 0) =
      (describedService "urn:pdf").calls (Scripted.mainClient 0) ++
        (named ((scriptedAnswers (describedService "urn:pdf").stores).findings
          "urn:g").values).flatMap (describing (Scripted.mainClient 0) "urn:g") := by
  have hanswers := answersBy_scripted (describedService "urn:pdf").stores
  have hother : Scripted.workingClient ≠ Scripted.mainClient 0 := by decide
  have hopen : (Backend.openWorking (describedService "urn:pdf").stores).result =
      .ok Scripted.workingClient := rfl
  have hrefused : ¬ (describedService "urn:pdf").HasRefused (run (Scripted.mainClient 0) "urn:g"
      oneDocument ⟨describedService "urn:pdf", default⟩).2.stores := by decide +kernel
  exact ⟨hanswers, hother, hopen, hrefused, derives_findings hanswers hother
    (describedService "urn:pdf") ⟨rfl, rfl⟩ hopen default "urn:g" oneDocument hrefused⟩

end Derivation

end GraphCommit
