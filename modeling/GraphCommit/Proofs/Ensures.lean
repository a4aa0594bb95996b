import GraphCommit.Proofs.Effect

/-!
# What a computation ensures

`Ensures P x Q E` says of a computation that is begun where `P` holds: if it returns, then `Q` holds
of what it returns and of the state where it ends, and if it fails, then `E` holds of the fault and
of that state.  Each combinator has one rule.  The rule for a loop carries a statement on the
elements that are done, so that a loop is as easily described as its body.
-/

namespace GraphCommit

namespace Effect

variable {ε σ α β : Type}

/-- A computation has ended, with a value or with a fault. -/
inductive EndsIn (Q : α → σ → Prop) (E : ε → σ → Prop) : Except ε α × σ → Prop
  | returns {a : α} {s : σ} (hreturns : Q a s) : EndsIn Q E (.ok a, s)
  | fails {e : ε} {s : σ} (hfails : E e s) : EndsIn Q E (.error e, s)

/-- How a computation ends that is begun where something holds. -/
def Ensures (P : σ → Prop) (x : Effect ε σ α) (Q : α → σ → Prop) (E : ε → σ → Prop) : Prop :=
  ∀ s, P s → EndsIn Q E (x s)

variable {P P' : σ → Prop} {Q Q' : α → σ → Prop} {E E' : ε → σ → Prop} {x : Effect ε σ α}

theorem EndsIn.mono {p : Except ε α × σ} (hends : EndsIn Q E p) (hreturns : ∀ a s, Q a s → Q' a s)
    (hfails : ∀ e s, E e s → E' e s) : EndsIn Q' E' p := by
  cases hends with
  | returns h => exact .returns (hreturns _ _ h)
  | fails h => exact .fails (hfails _ _ h)

theorem EndsIn.of_ok {result : Except ε α} {s : σ} {a : α} (hends : EndsIn Q E (result, s))
    (hresult : result = .ok a) : Q a s := by
  subst hresult
  cases hends with
  | returns h => exact h

theorem EndsIn.of_error {result : Except ε α} {s : σ} {e : ε} (hends : EndsIn Q E (result, s))
    (hresult : result = .error e) : E e s := by
  subst hresult
  cases hends with
  | fails h => exact h

theorem Ensures.mono (hx : Ensures P x Q E) (hbefore : ∀ s, P' s → P s)
    (hreturns : ∀ a s, Q a s → Q' a s) (hfails : ∀ e s, E e s → E' e s) : Ensures P' x Q' E' :=
  fun s hs => (hx s (hbefore s hs)).mono hreturns hfails

/-- Two statements on one computation. -/
theorem Ensures.and (hx : Ensures P x Q E) (hx' : Ensures P' x Q' E') :
    Ensures (fun s => P s ∧ P' s) x (fun a s => Q a s ∧ Q' a s) (fun e s => E e s ∧ E' e s) := by
  intro s hs
  have hends := hx s hs.1
  have hends' := hx' s hs.2
  generalize x s = p at hends hends' ⊢
  cases hends with
  | returns h =>
    cases hends' with
    | returns h' => exact .returns ⟨h, h'⟩
  | fails h =>
    cases hends' with
    | fails h' => exact .fails ⟨h, h'⟩

/-- What is known beforehand and has nothing to do with the state. -/
theorem Ensures.of_and {φ : Prop} (hx : φ → Ensures P x Q E) :
    Ensures (fun s => φ ∧ P s) x Q E :=
  fun s hs => hx hs.1 s hs.2

theorem Ensures.bind {f : α → Effect ε σ β} {R : β → σ → Prop} (hx : Ensures P x Q E)
    (hf : ∀ a, Ensures (Q a) (f a) R E) : Ensures P (x >>= f) R E := by
  intro s hs
  have hfirst := hx s hs
  rw [bind_apply]
  generalize x s = p at hfirst ⊢
  cases hfirst with
  | returns h => exact hf _ _ h
  | fails h => exact .fails h

theorem ensures_pure {a : α} (hpure : ∀ s, P s → Q a s) :
    Ensures P (pure a : Effect ε σ α) Q E :=
  fun s hs => .returns (hpure s hs)

theorem ensures_throw {e : ε} (hthrow : ∀ s, P s → E e s) :
    Ensures P (throw e : Effect ε σ α) Q E :=
  fun s hs => .fails (hthrow s hs)

/-- What is read is the state itself. -/
theorem ensures_get : Ensures P (get : Effect ε σ σ) (fun t s => t = s ∧ P s) E :=
  fun _ hs => .returns ⟨rfl, hs⟩

theorem ensures_modify {f : σ → σ} {R : σ → Prop} (hf : ∀ s, P s → R (f s)) :
    Ensures P (modify f : Effect ε σ PUnit) (fun _ => R) E :=
  fun s hs => .returns (hf s hs)

/-- A loop that has done some of its elements goes on with the others. -/
theorem ensures_forM {I : List α → σ → Prop} {f : α → Effect ε σ PUnit} {l : List α}
    (hf : ∀ done a rest, l = done ++ a :: rest →
      Ensures (I done) (f a) (fun _ => I (done ++ [a])) E) :
    Ensures (I []) (l.forM f) (fun _ => I l) E := by
  have hrest : ∀ rest done, l = done ++ rest →
      Ensures (I done) (rest.forM f) (fun _ => I l) E := by
    intro rest
    induction rest with
    | nil =>
      intro done hl
      rw [List.append_nil] at hl
      exact hl ▸ ensures_pure fun s hs => hs
    | cons a rest ih =>
      intro done hl
      refine (hf done a rest hl).bind fun _ => ih (done ++ [a]) ?_
      rw [hl, List.append_cons]
  exact hrest l [] rfl

/-- A loop whose body keeps something keeps it. -/
theorem ensures_forM_keeping {I : σ → Prop} {f : α → Effect ε σ PUnit} {l : List α}
    (hf : ∀ a ∈ l, Ensures I (f a) (fun _ => I) E) : Ensures I (l.forM f) (fun _ => I) E := by
  refine ensures_forM (I := fun _ => I) fun done a rest hl => hf a ?_
  rw [hl]
  exact List.mem_append_right _ List.mem_cons_self

end Effect

open Effect

/-! ## Jobs -/

namespace Job

variable {S α : Type} {P : Outside S → Prop} {Q : α → Outside S → Prop}
  {E : Fault → Outside S → Prop}

/-- A question to the stores, of which nothing but the answer and the stores matters. -/
theorem ensures_call {P : S → Prop} {Q : α → S → Prop} {E : Fault → S → Prop}
    {question : S → Response S α}
    (hok : ∀ s a, P s → (question s).result = .ok a → Q a (question s).state)
    (herror : ∀ s f, P s → (question s).result = .error f → E f (question s).state) :
    Ensures (fun o => P o.stores) (Job.call question) (fun a o => Q a o.stores)
      (fun f o => E f o.stores) := by
  intro o ho
  rw [call_apply]
  cases hresult : (question o.stores).result with
  | ok a => exact .returns (hok _ a ho hresult)
  | error f => exact .fails (herror _ f ho hresult)

theorem ensures_note {level : Level} {target message : String}
    (hnote : ∀ o, P o → P (o.note level target message)) :
    Ensures P (note level target message) (fun _ => P) E :=
  fun o ho => .returns (hnote o ho)

theorem ensures_relabel {g : Fault → Fault} {j : Job S α}
    (hj : Ensures P j Q fun f => E (g f)) : Ensures P (relabel g j) Q E := by
  intro o ho
  have hends := hj o ho
  rw [relabel_apply]
  generalize j o = p at hends ⊢
  cases hends with
  | returns h => exact .returns h
  | fails h => exact .fails h

/-- A job that is observed does not fail. -/
theorem ensures_observe {j : Job S α} {R : Except Fault α → Outside S → Prop}
    {F : Fault → Outside S → Prop}
    (hj : Ensures P j (fun a => R (.ok a)) fun f => R (.error f)) : Ensures P (observe j) R F := by
  intro o ho
  have hends := hj o ho
  rw [observe_apply]
  generalize j o = p at hends ⊢
  cases hends with
  | returns h => exact .returns h
  | fails h => exact .returns h

end Job

end GraphCommit
