import GraphCommit.Backend

/-!
# Computations that change a state and may fail

Jobs on the stores, calls on a participant, steps of a derivation and operations of a connector are
all computations of one shape: they start in a state, they end in another one, and they return a
value or a fault.  What such a computation did before it failed stays done.

The first section says what each combinator does to a state, the second one what the parts of a job
do.
-/

namespace GraphCommit

/-- A computation on a state of type `σ` that returns a value or a fault of type `ε`. -/
abbrev Effect (ε σ α : Type) := ExceptT ε (StateM σ) α

namespace Effect

variable {ε σ α β : Type}

/-! ## What the combinators do -/

@[simp] theorem bind_apply (x : Effect ε σ α) (f : α → Effect ε σ β) (s : σ) :
    (x >>= f) s = match x s with
      | (.ok a, t) => f a t
      | (.error e, t) => (.error e, t) := by
  rcases h : x s with ⟨e | a, t⟩
  · simp [bind, ExceptT.bind, ExceptT.mk, StateT.bind, h, ExceptT.bindCont]
    rfl
  · simp [bind, ExceptT.bind, ExceptT.mk, StateT.bind, h, ExceptT.bindCont]

@[simp] theorem map_apply (f : α → β) (x : Effect ε σ α) (s : σ) :
    (f <$> x) s = match x s with
      | (.ok a, t) => (.ok (f a), t)
      | (.error e, t) => (.error e, t) := by
  rcases h : x s with ⟨r | r, t⟩ <;>
    simp [Functor.map, ExceptT.map, ExceptT.mk, StateT.bind, bind, h] <;> rfl

/-- What is made of the result changes nothing. -/
theorem map_snd (f : α → β) (x : Effect ε σ α) (s : σ) : ((f <$> x) s).2 = (x s).2 := by
  rw [map_apply]
  rcases x s with ⟨e | a, t⟩ <;> rfl

theorem bind_pure_snd (f : α → β) (x : Effect ε σ α) (s : σ) :
    ((x >>= fun a => pure (f a)) s).2 = (x s).2 := by
  rw [bind_apply]
  rcases x s with ⟨e | a, t⟩ <;> rfl

@[simp] theorem pure_apply (a : α) (s : σ) : (pure a : Effect ε σ α) s = (.ok a, s) := rfl

@[simp] theorem get_apply (s : σ) : (get : Effect ε σ σ) s = (.ok s, s) := rfl

@[simp] theorem set_apply (t s : σ) : (set t : Effect ε σ PUnit) s = (.ok ⟨⟩, t) := rfl

theorem isOk_iff {r : Except ε α} : r.isOk = true ↔ ∃ a, r = .ok a := by
  cases r <;> simp [Except.isOk, Except.toBool]

/-- A result that is computed from another one is there only if the other one is. -/
theorem exists_of_bind_eq_ok {x : Except ε α} {f : α → Except ε β} {b : β}
    (hbind : (x >>= f) = .ok b) : ∃ a, x = .ok a ∧ f a = .ok b := by
  cases x with
  | error e => contradiction
  | ok a => exact ⟨a, rfl, hbind⟩

end Effect

/-! ## Jobs -/

namespace Log

@[simp] theorem threshold_add (log : Log) (r : Record) : (log.add r).threshold = log.threshold := by
  unfold add
  split <;> rfl

@[simp] theorem threshold_addAll (log : Log) (rs : List Record) :
    (log.addAll rs).threshold = log.threshold := by
  unfold addAll
  induction rs generalizing log with
  | nil => rfl
  | cons r rest ih => rw [List.foldl_cons, ih, threshold_add]

end Log

@[simp] theorem Outside.stores_note {S : Type} (o : Outside S) (level : Level)
    (target message : String) : (o.note level target message).stores = o.stores := rfl

namespace Job

variable {S α : Type}

@[simp] theorem call_apply (question : S → Response S α) (o : Outside S) :
    call question o = ((question o.stores).result,
      ⟨(question o.stores).state, o.log.addAll (question o.stores).records⟩) := rfl

@[simp] theorem note_apply (level : Level) (target message : String) (o : Outside S) :
    note level target message o = (.ok (), o.note level target message) := rfl

@[simp] theorem observe_apply (job : Job S α) (o : Outside S) :
    observe job o = (.ok (job o).1, (job o).2) := rfl

@[simp] theorem relabel_apply (f : Fault → Fault) (job : Job S α) (o : Outside S) :
    relabel f job o = ((job o).1.mapError f, (job o).2) := rfl

end Job

namespace ClientId

variable {S : Type} [Backend S]

@[simp] theorem act_apply (k : ClientId) (a : Action) (o : Outside S) :
    k.act a o = ((Backend.act o.stores k a).result,
      ⟨(Backend.act o.stores k a).state, o.log.addAll (Backend.act o.stores k a).records⟩) := rfl

@[simp] theorem select_apply (k : ClientId) (text : String) (o : Outside S) :
    k.select text o = ((Backend.select o.stores k text).result,
      ⟨(Backend.select o.stores k text).state,
        o.log.addAll (Backend.select o.stores k text).records⟩) := rfl

end ClientId

end GraphCommit
