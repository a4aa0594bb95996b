import GraphCommit.Commit
import GraphCommit.Proofs.Effect

/-!
# Computations side by side

Two computations are begun in related states.  `Relates` says that both return or both fail with the
same fault, and how what they return and where they end is related then.  Mostly one relation is
kept all along; then the computations `Agree`.

A program that is run twice agrees with itself as soon as its calls do.  So what holds of the calls
(`Mirrors`) holds of commits, of calls of the coordinator, of derivations and of operations of a
connector.  There are two uses of this.  Runs over different stores are compared with each other,
and, with one and the same run on both sides, a relation is a predicate that the run keeps.
-/

namespace GraphCommit

namespace Effect

variable {ε σ τ α β γ δ : Type}

/-- Two computations have ended alike: what they return is related, or they have failed with the
same fault. -/
inductive EndAlike (Q : α → β → σ → τ → Prop) (E : σ → τ → Prop) :
    Except ε α × σ → Except ε β × τ → Prop
  | returns {a : α} {b : β} {s : σ} {t : τ} (hreturns : Q a b s t) :
      EndAlike Q E (.ok a, s) (.ok b, t)
  | fails {e : ε} {s : σ} {t : τ} (hfails : E s t) : EndAlike Q E (.error e, s) (.error e, t)

/-- Begun in related states, two computations end alike. -/
def Relates (R : σ → τ → Prop) (x : Effect ε σ α) (y : Effect ε τ β) (Q : α → β → σ → τ → Prop)
    (E : σ → τ → Prop) : Prop :=
  ∀ s t, R s t → EndAlike Q E (x s) (y t)

/-- Two computations keep a relation of their states, and what they return is related. -/
abbrev Agree (R : σ → τ → Prop) (V : α → β → Prop) (x : Effect ε σ α) (y : Effect ε τ β) : Prop :=
  Relates R x y (fun a b s t => V a b ∧ R s t) R

variable {R : σ → τ → Prop} {V : α → β → Prop} {W : γ → δ → Prop} {P Q : α → β → σ → τ → Prop}
  {E : σ → τ → Prop} {x : Effect ε σ α} {y : Effect ε τ β}

theorem EndAlike.mono {F : σ → τ → Prop} {p : Except ε α × σ} {q : Except ε β × τ}
    (hends : EndAlike P E p q) (hreturns : ∀ a b s t, P a b s t → Q a b s t)
    (hfails : ∀ s t, E s t → F s t) : EndAlike Q F p q := by
  cases hends with
  | returns h => exact .returns (hreturns _ _ _ _ h)
  | fails h => exact .fails (hfails _ _ h)

/-- Computations that end alike return the same value or fault. -/
theorem EndAlike.result_eq {p : Except ε α × σ} {q : Except ε α × τ}
    {Q : α → α → σ → τ → Prop} (hends : EndAlike Q E p q)
    (hsame : ∀ a b s t, Q a b s t → a = b) : p.1 = q.1 := by
  cases hends with
  | returns h => exact congrArg Except.ok (hsame _ _ _ _ h)
  | fails h => rfl

/-- Computations that keep a relation end in related states. -/
theorem EndAlike.states {p : Except ε α × σ} {q : Except ε β × τ}
    (hends : EndAlike (fun a b s t => V a b ∧ R s t) R p q) : R p.2 q.2 := by
  cases hends with
  | returns h => exact h.2
  | fails h => exact h

theorem Relates.bind {f : α → Effect ε σ γ} {g : β → Effect ε τ δ}
    {T : γ → δ → σ → τ → Prop} (hx : Relates R x y P E)
    (hf : ∀ a b, Relates (P a b) (f a) (g b) T E) : Relates R (x >>= f) (y >>= g) T E := by
  intro s t hst
  have hfirst := hx s t hst
  rw [bind_apply, bind_apply]
  generalize x s = p at hfirst ⊢
  generalize y t = q at hfirst ⊢
  cases hfirst with
  | returns h => exact hf _ _ _ _ h
  | fails h => exact .fails h

theorem Relates.mono {F : σ → τ → Prop} (hx : Relates R x y P E)
    (hreturns : ∀ a b s t, P a b s t → Q a b s t) (hfails : ∀ s t, E s t → F s t) :
    Relates R x y Q F :=
  fun s t hst => (hx s t hst).mono hreturns hfails

theorem Agree.bind {f : α → Effect ε σ γ} {g : β → Effect ε τ δ} (hx : Agree R V x y)
    (hf : ∀ a b, V a b → Agree R W (f a) (g b)) : Agree R W (x >>= f) (y >>= g) :=
  Relates.bind hx fun a b s t hst => hf a b hst.1 s t hst.2

/-- After computations that return the same. -/
theorem Agree.next {y : Effect ε τ α} {f : α → Effect ε σ γ} {g : α → Effect ε τ δ}
    (hx : Agree R Eq x y) (hf : ∀ a, Agree R W (f a) (g a)) : Agree R W (x >>= f) (y >>= g) :=
  hx.bind fun a _ hab => hab ▸ hf a

theorem agree_pure {a : α} {b : β} (hab : V a b) :
    Agree R V (pure a : Effect ε σ α) (pure b : Effect ε τ β) :=
  fun _ _ hst => .returns ⟨hab, hst⟩

theorem agree_throw (e : ε) : Agree R V (throw e : Effect ε σ α) (throw e : Effect ε τ β) :=
  fun _ _ hst => .fails hst

/-- What is read are the related states themselves. -/
theorem agree_get : Agree R R (get : Effect ε σ σ) (get : Effect ε τ τ) :=
  fun _ _ hst => .returns ⟨hst, hst⟩

theorem agree_set {s : σ} {t : τ} (hst : R s t) :
    Agree R Eq (set s : Effect ε σ PUnit) (set t : Effect ε τ PUnit) :=
  fun _ _ _ => .returns ⟨rfl, hst⟩

theorem agree_modify {f : σ → σ} {g : τ → τ} (hfg : ∀ s t, R s t → R (f s) (g t)) :
    Agree R Eq (modify f : Effect ε σ PUnit) (modify g : Effect ε τ PUnit) :=
  fun s t hst => .returns ⟨rfl, hfg s t hst⟩

theorem agree_map {f : α → γ} {g : β → δ} (hx : Agree R V x y)
    (hfg : ∀ a b, V a b → W (f a) (g b)) : Agree R W (f <$> x) (g <$> y) := by
  intro s t hst
  have hends := hx s t hst
  rw [map_apply, map_apply]
  generalize x s = p at hends ⊢
  generalize y t = q at hends ⊢
  cases hends with
  | returns h => exact .returns ⟨hfg _ _ h.1, h.2⟩
  | fails h => exact .fails h

theorem agree_forM {l : List α} {f : α → Effect ε σ PUnit} {g : α → Effect ε τ PUnit}
    (hf : ∀ a ∈ l, Agree R Eq (f a) (g a)) : Agree R Eq (l.forM f) (l.forM g) := by
  induction l with
  | nil => exact agree_pure rfl
  | cons a rest ih =>
    exact (hf a List.mem_cons_self).next fun _ => ih fun b hb => hf b (List.mem_cons_of_mem a hb)

end Effect

open Effect

/-! ## Jobs -/

namespace Job

variable {S α : Type} {R E : Outside S → Outside S → Prop} {j k : Job S α}

theorem relates_relabel {Q : α → α → Outside S → Outside S → Prop} (f : Fault → Fault)
    (hj : Relates R j k Q E) : Relates R (relabel f j) (relabel f k) Q E := by
  intro o o' ho
  have hends := hj o o' ho
  rw [relabel_apply, relabel_apply]
  generalize j o = p at hends ⊢
  generalize k o' = q at hends ⊢
  cases hends with
  | returns h => exact .returns h
  | fails h => exact .fails h

/-- A job that is observed does not fail. -/
theorem relates_observe {F : Outside S → Outside S → Prop}
    (hj : Relates R j k (fun a b o o' => a = b ∧ E o o') E) :
    Relates R (observe j) (observe k) (fun a b o o' => a = b ∧ E o o') F := by
  intro o o' ho
  have hends := hj o o' ho
  rw [observe_apply, observe_apply]
  generalize j o = p at hends ⊢
  generalize k o' = q at hends ⊢
  cases hends with
  | returns h => exact .returns ⟨congrArg Except.ok h.1, h.2⟩
  | fails h => exact .returns ⟨rfl, h⟩

end Job

/-! ## Stores that answer alike -/

/-- A relation of the stores and the logs of two runs is kept by all that is asked of the stores,
with the clients of the one run standing for those of the other.  Nothing is said of the records
with which operations speak of accepted writes in the audit trail. -/
structure Mirrors {S : Type} [Backend S] (R : Outside S → Outside S → Prop)
    (ρ : ClientId → ClientId) : Prop where
  note : ∀ {o o' : Outside S} (level : Level) (target : String) (message message' : String),
    ¬ (level = .info ∧ target = Record.audit) → R o o' →
    R (o.note level target message) (o'.note level target message')
  threshold : ∀ {o o' : Outside S}, R o o' → o.log.threshold = o'.log.threshold
  durability : ∀ {o o' : Outside S} (k : ClientId), R o o' →
    Backend.durability o.stores k = Backend.durability o'.stores (ρ k)
  act : ∀ (k : ClientId) (a : Action), Agree R Eq (k.act a : Job S Unit) ((ρ k).act a)
  select : ∀ (k : ClientId) (text : String),
    Agree R Eq (k.select text : Job S (List Row)) ((ρ k).select text)
  ask : ∀ (k : ClientId) (text : String), Agree R Eq (k.ask text : Job S Bool) ((ρ k).ask text)
  create : Agree R (fun k l => l = ρ k) (Job.call Backend.create : Job S ClientId)
    (Job.call Backend.create)
  openWorking : Agree R (fun k l => l = ρ k) (Job.call Backend.openWorking : Job S ClientId)
    (Job.call Backend.openWorking)
  shutDownWorking : Agree R Eq (Job.call Backend.shutDownWorking : Job S Unit)
    (Job.call Backend.shutDownWorking)

namespace Mirrors

variable {S : Type} [Backend S] {R : Outside S → Outside S → Prop} {ρ : ClientId → ClientId}

theorem keeps {o o' : Outside S} (hmirrors : Mirrors R ρ) (ho : R o o') (level : Level) :
    o.log.keeps level = o'.log.keeps level := by
  simp only [Log.keeps, hmirrors.threshold ho]

theorem agree_note (hmirrors : Mirrors R ρ) (level : Level) (target : String)
    (message message' : String) (hother : ¬ (level = .info ∧ target = Record.audit)) :
    Agree R Eq (Job.note level target message : Job S Unit) (Job.note level target message') :=
  fun _ _ ho => .returns ⟨rfl, hmirrors.note level target message message' hother ho⟩

/-- A commit with everything that follows it. -/
theorem agree_commit (hmirrors : Mirrors R ρ) (strategy : Strategy) (k : ClientId) (n : Nat) :
    Agree R Eq (strategy.commit k n : Job S Unit) (strategy.commit (ρ k) n) := by
  unfold Strategy.commit
  refine (hmirrors.act k .commit).next fun _ => ?_
  cases strategy with
  | plain => exact agree_pure rfl
  | flushing =>
    dsimp only
    split
    · refine (hmirrors.agree_note _ _ _ _ (by simp)).next fun _ => ?_
      exact Job.relates_relabel _ (hmirrors.act k .flush)
    · exact agree_pure rfl

end Mirrors

end GraphCommit
