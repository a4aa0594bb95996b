import GraphCommit.Proofs.Piece

/-!
# Connections that derive transformations

Whether the release of a connection derives transformations is settled when the connection is made,
and all connections of a connector are made alike.  So they all do or none does (`Uniform`), and no
piece of an operation changes that.
-/

namespace GraphCommit

open Effect

namespace Connector

variable {S α β : Type} {b : Bool} {c : Connector S} {i : Nat}

/-- All connections derive transformations, or none does. -/
structure Uniform (b : Bool) (c : Connector S) : Prop where
  hasWorking : c.hasWorking = b
  derives : ∀ x ∈ c.connections, x.derives = b

/-- An operation after which this still holds. -/
def Keeps (b : Bool) (r : Run S α) : Prop := ∀ c, c.Uniform b → (r c).2.Uniform b

theorem Keeps.bind {r : Run S α} {f : α → Run S β} (hr : Keeps b r) (hf : ∀ a, Keeps b (f a)) :
    Keeps b (r >>= f) := by
  intro c hc
  have hfirst := hr c hc
  rw [bind_apply]
  rcases hrun : r c with ⟨e | a, d⟩ <;> rw [hrun] at hfirst
  · exact hfirst
  · exact hf a d hfirst

theorem Keeps.map {r : Run S α} (hr : Keeps b r) (f : α → β) : Keeps b (f <$> r) := by
  intro c hc
  rw [map_snd]
  exact hr c hc

theorem Keeps.observe {r : Run S α} (hr : Keeps b r) : Keeps b (observe r) := by
  intro c hc
  rw [observe_snd]
  exact hr c hc

/-- An operation that has nothing to do with the connections. -/
theorem keeps_of_same {r : Run S α}
    (hsame : ∀ c, (r c).2.hasWorking = c.hasWorking ∧ (r c).2.connections = c.connections) :
    Keeps b r := by
  intro c hc
  refine ⟨(hsame c).1.trans hc.hasWorking, ?_⟩
  rw [(hsame c).2]
  exact hc.derives

theorem keeps_pure (a : α) : Keeps b (pure a : Run S α) := fun _ hc => hc

theorem keeps_throw (halt : Halt) : Keeps b (throw halt : Run S α) := fun _ hc => hc

theorem keeps_connectionAt (i : Nat) : Keeps b (connectionAt i : Run S Connection) :=
  fun _ hc => hc

theorem keeps_note (level : Level) (target message : String) :
    Keeps b (note level target message : Run S Unit) :=
  keeps_of_same fun _ => ⟨rfl, rfl⟩

theorem keeps_hear (n : Notice) : Keeps b (hear n : Run S Unit) :=
  keeps_of_same fun _ => ⟨rfl, rfl⟩

theorem keeps_job (j : Job S α) : Keeps b (job j : Run S α) :=
  keeps_of_same fun _ => ⟨rfl, rfl⟩

theorem keeps_unlockAll (i : Nat) : Keeps b (unlockAll i : Run S Unit) :=
  keeps_of_same fun _ => ⟨rfl, rfl⟩

theorem keeps_update (i : Nat) {f : Connection → Connection}
    (hf : ∀ x, (f x).derives = x.derives) : Keeps b (update i f : Run S Unit) := by
  intro c hc
  refine ⟨hc.hasWorking, fun x hx => ?_⟩
  obtain ⟨j, hj, rfl⟩ := List.getElem_of_mem hx
  simp only [update_apply, List.length_modify] at hj ⊢
  rw [List.getElem_modify]
  split
  · rw [hf]
    exact hc.derives _ (List.getElem_mem _)
  · exact hc.derives _ (List.getElem_mem _)

theorem keeps_ask (i : Nat) (mode : Lock.Mode) : Keeps b (ask i mode : Run S Lock.Answer) := by
  refine keeps_of_same fun c => ?_
  unfold ask
  rw [bind_apply, get_apply]
  dsimp only
  rw [bind_apply, set_apply]
  dsimp only
  split <;> exact ⟨rfl, rfl⟩

theorem keeps_expire (call : Lock.Call) : Keeps b (expire call : Run S Unit) := by
  refine keeps_of_same fun c => ?_
  unfold expire
  rw [bind_apply, get_apply]
  dsimp only
  rw [bind_apply, set_apply]
  dsimp only
  split <;> exact ⟨rfl, rfl⟩

theorem keeps_getHandle (i : Nat) : Keeps b (getHandle i : Run S Handle) := by
  refine (keeps_connectionAt i).bind fun x => ?_
  obtain ⟨token, isNew, y⟩ := x.token
  have htoken : ∀ x : Connection, x.token.2.2.derives = x.derives := fun _ => rfl
  have hgive : Keeps b (do update i (·.token.2.2); return ⟨i, token⟩ : Run S Handle) :=
    (keeps_update i htoken).bind fun _ => keeps_pure _
  cases isNew with
  | true => exact (keeps_note _ _ _).bind fun _ => hgive
  | false => exact hgive

theorem keeps_invalidate (h : Handle) : Keeps b (invalidate h : Run S Unit) :=
  keeps_update h.connection fun _ => rfl

theorem keeps_manage (client : ClientId) (strategy : Strategy) :
    Keeps b (manage client strategy : Run S Nat) := by
  intro c hc
  refine ⟨hc.hasWorking, fun x hx => ?_⟩
  rcases List.mem_append.mp hx with hold | hnew
  · exact hc.derives x hold
  · rw [List.mem_singleton.mp hnew]
    exact hc.hasWorking

variable [Backend S]

theorem keeps_cleanup (i : Nat) : Keeps b (cleanup i : Run S Unit) := by
  refine (keeps_connectionAt i).bind fun x => (keeps_note _ _ _).bind fun _ => ?_
  have hreset : Keeps b (update i Connection.reset : Run S Unit) := keeps_update i fun _ => rfl
  refine hreset.bind fun _ => (keeps_job _).observe.bind fun result => ?_
  refine (keeps_unlockAll i).bind fun _ => ?_
  cases result with
  | ok _ => exact keeps_pure ()
  | error f => exact (keeps_note _ _ _).bind fun _ => keeps_throw _

theorem keeps_tell (kind : EventKind) (holder : Holder) (error : Option String) (l : Listener) :
    Keeps b (tell kind holder error l : Run S Unit) := by
  refine (keeps_hear _).bind fun _ => ?_
  cases l.cleans with
  | none => exact keeps_pure ()
  | some other => exact (keeps_cleanup other).observe.bind fun _ => keeps_hear _

theorem keeps_piece (p : Piece) : Keeps b (p.run : Run S Outcome) := by
  cases p with
  | connect =>
    refine Keeps.map ?_ _
    refine (keeps_job _).bind fun client => (keeps_job _).bind fun durability => ?_
    refine (keeps_manage client _).bind fun i => (keeps_connectionAt i).bind fun _ => ?_
    exact (keeps_note _ _ _).bind fun _ => keeps_pure i
  | connectWith strategy =>
    exact ((keeps_job _).bind fun client => keeps_manage client strategy).map _
  | getHandle i => exact (keeps_getHandle i).map _
  | invalidate h => exact (keeps_invalidate h).map _
  | listen i l => exact (keeps_update (f := (·.listen l)) i fun _ => rfl).map _
  | unlisten i l => exact (keeps_update (f := (·.unlisten l)) i fun _ => rfl).map _
  | ask i mode => exact (keeps_ask i mode).map _
  | expire call => exact (keeps_expire call).map _
  | look ticket =>
    refine keeps_of_same fun c => ?_
    simp only [Piece.run, bind_apply, get_apply]
    cases c.outcome ticket <;> exact ⟨rfl, rfl⟩
  | write i w =>
    refine Keeps.map ((keeps_connectionAt i).bind fun x => (keeps_job _).bind fun _ => ?_) _
    exact (keeps_note _ _ _).bind fun _ => keeps_update i fun _ => rfl
  | select i text => exact ((keeps_connectionAt i).bind fun x => (keeps_job _).observe).map _
  | unlockRead i => exact (keeps_of_same fun _ => ⟨rfl, rfl⟩).map _
  | derive i context writes =>
    exact ((keeps_connectionAt i).bind fun x => keeps_job _).map _
  | report i level before tail =>
    exact (keeps_connectionAt i).bind fun x => (keeps_note _ _ _).bind fun _ => keeps_pure _
  | tell i kind error l =>
    exact (keeps_connectionAt i).bind fun x => (keeps_tell _ _ _ _).bind fun _ => keeps_pure _
  | coordinate i command =>
    intro c hc
    exact keeps_update (S := S) i (f := ({ · with participant :=
      (command.call ⟨(c.connection i).participant, c.outside⟩).2.participant })) (fun _ => rfl)
      { c with outside := (command.call ⟨(c.connection i).participant, c.outside⟩).2.outside }
      ⟨hc.hasWorking, hc.derives⟩
  | cleanup i => exact (keeps_cleanup i).map _
  | destroy i =>
    exact ((keeps_connectionAt i).bind fun x => (keeps_note _ _ _).bind fun _ => keeps_job _).map _

theorem Uniform.follow (hc : c.Uniform b) (ps : List Piece) : (c.follow ps).Uniform b := by
  induction ps generalizing c with
  | nil => exact hc
  | cons p rest ih => exact ih (keeps_piece p c hc)

end Connector

/-- At any time all connections derive transformations if there is a working repository, and none
does if there is none. -/
theorem Schedule.Reachable.uniform {S : Type} [Backend S] {s : Schedule S} (hs : s.Reachable) :
    s.connector.Uniform s.connector.hasWorking := by
  obtain ⟨s₀, hnew, hrun⟩ := hs
  have hbegin : s₀.connector.Uniform s₀.connector.hasWorking :=
    ⟨rfl, by simp [hnew.connections]⟩
  obtain ⟨ps, -, hfollow⟩ := hrun.pieces ⟨s₀, hnew, .refl⟩
  have hafter := hbegin.follow ps
  rw [hfollow] at hafter
  rw [hafter.hasWorking]
  exact hafter

/-- A step gives no connector a working repository, and takes none away. -/
theorem Schedule.Step.hasWorking {S : Type} [Backend S] {s t : Schedule S} {m : Move}
    (hstep : Step s m t) (hs : s.Reachable) : t.connector.hasWorking = s.connector.hasWorking := by
  obtain ⟨ps, -, hfollow⟩ := hstep.pieces hs.orderly
  have hafter := hs.uniform.follow ps
  rw [hfollow] at hafter
  exact hafter.hasWorking

end GraphCommit
