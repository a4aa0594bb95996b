import GraphCommit.Proofs.Attribution
import GraphCommit.Store.Opening

/-!
# Runs over an open repository

A connector over a depot begins with an open main repository (`serving_connector`), and from then on
the repository stays open and the connections stay apart from each other, as long as no transaction
and no flush fails.  A depot that is made for settings has none that fail (`serves_connector`).
-/

namespace GraphCommit

/-- A connector whose stores remember from now on what they are asked. -/
def Connector.recorded {S : Type} (c : Connector S) : Connector (Recorded S) where
  settings := c.settings
  locks := c.locks
  outside := ⟨{ stores := c.outside.stores }, c.outside.log⟩
  hasWorking := c.hasWorking
  connections := c.connections
  notices := c.notices
  pending := c.pending
  ended := c.ended

namespace Depot

variable {s t : Depot × List Record}

/-- The main repository serves once it was opened while no other one was. -/
theorem serving_initialize (hexists : main < s.1.repositories.length)
    (hclosed : ∀ r, (s.1.repository r).opened = none) (hopen : initialize_ main s = (.ok (), t)) :
    t.1.Serving := by
  have hopened : ∀ (d : Depot) (opened : Opened), main < d.repositories.length →
      ((d.setOpened main (some opened)).repository main).opened = some opened := by
    intro d opened hlt
    rw [repository_setOpened_self hlt]
  unfold initialize_ at hopen
  rw [Effect.bind_apply, Work.depot_apply] at hopen
  simp only [hclosed main, Option.isSome_none, Bool.false_eq_true, if_false] at hopen
  cases hmain : (s.1.repository main).path with
  | none =>
    simp only [hmain] at hopen
    obtain ⟨-, rfl⟩ := Prod.mk.inj hopen
    exact .memory ((path_setOpened _ _).trans hmain) (hopened _ _ hexists)
  | some path =>
    simp only [hmain] at hopen
    rw [Effect.bind_apply] at hopen
    rcases hdirectory : openDirectory main path s with ⟨fault | opened, u⟩ <;>
      rw [hdirectory] at hopen
    · obtain ⟨hfault, -⟩ := Prod.mk.inj hopen
      contradiction
    · obtain ⟨files, place, rfl, rfl, hplace, -⟩ := openDirectory_eq_ok hdirectory
      obtain ⟨-, rfl⟩ := Prod.mk.inj hopen
      refine .directory ((path_setOpened _ _).trans hmain) (hopened _ _ hexists) hplace ?_
      -- no other repository has the directory open, since no other one is open at all
      intro r hr hother
      change ((Depot.setOpened { s.1 with files } main _).repository r).opened = _ at hother
      rw [repository_setOpened_ne hr] at hother
      change (s.1.repository r).opened = _ at hother
      rw [hclosed r] at hother
      contradiction

/-- Opening a repository flushes nothing. -/
theorem flushes_initialize_ (r : Nat) (s : Depot × List Record) :
    (initialize_ r s).2.1.flushes = s.1.flushes := by
  unfold initialize_
  rw [Effect.bind_apply, Work.depot_apply]
  dsimp only
  split
  · rfl
  · cases (s.1.repository r).path with
    | none => rfl
    | some path =>
      have hends := ends_openDirectory r path s
      dsimp only
      rw [Effect.bind_apply]
      generalize openDirectory r path s = done at hends ⊢
      cases hends with
      | returns h =>
        obtain ⟨files, place, -, rfl, -⟩ := h
        rfl
      | fails h =>
        rcases h with rfl | ⟨files, -, rfl⟩ <;> rfl

theorem opened_ofSettings (settings : Settings) (files : Files) (r : Nat) :
    ((ofSettings settings files).repository r).opened = none := by
  match r with
  | 0 => rfl
  | 1 => rfl
  | _ + 2 => rfl

/-- A connector is opened over a depot whose main repository serves, and has no connections yet. -/
theorem connector_begins {settings : Settings} {files : Files} {log : Log} {c : Connector Depot}
    (hopen : connector settings files log = .ok c) :
    c.outside.stores.Serving ∧ c.outside.stores.Flushes ∧ c.connections = [] ∧
      c.locks = { timeout := c.locks.timeout } := by
  unfold connector at hopen
  cases hvalid : settings.validate files with
  | error e =>
    rw [hvalid] at hopen
    contradiction
  | ok valid =>
    rw [hvalid] at hopen
    rcases hrun : initialize_ main (ofSettings valid files, []) with ⟨fault | _, t⟩
    · have hresponse : (initialize_ main).respond (ofSettings valid files) =
          ⟨.error fault, t.1, t.2⟩ := by
        unfold Work.respond
        rw [show (initialize_ main).run (ofSettings valid files, []) = _ from hrun]
      simp only [hresponse] at hopen
      contradiction
    · have hresponse : (initialize_ main).respond (ofSettings valid files) =
          ⟨.ok (), t.1, t.2⟩ := by
        unfold Work.respond
        rw [show (initialize_ main).run (ofSettings valid files, []) = _ from hrun]
      have hexists : main < (ofSettings valid files).repositories.length := Nat.zero_lt_succ 1
      have hserving := serving_initialize hexists (opened_ofSettings valid files) hrun
      have hflushes : t.1.Flushes := by
        have hsame := flushes_initialize_ main (ofSettings valid files, [])
        rw [hrun] at hsame
        exact hsame
      simp only [hresponse] at hopen
      change Connector.open_ valid t.1.files _ true = .ok c at hopen
      unfold Connector.open_ at hopen
      split at hopen
      · contradiction
      · obtain rfl := Except.ok.inj hopen
        exact ⟨hserving, hflushes, rfl, rfl⟩

end Depot

/-! ## Runs -/

namespace Schedule

variable [Engine]

/-- What a run from a new schedule leads to, over an open main repository.  Its transactions may
fail, its flushes succeed, so that it stays open. -/
def Serves (s : Schedule (Recorded Depot)) : Prop :=
  ∃ s₀ : Schedule (Recorded Depot), s₀.IsNew ∧ s₀.core.depot.Serving ∧ s₀.core.depot.Flushes ∧
    Leads (fun _ _ => True) s₀ s

variable {s t : Schedule (Recorded Depot)}

theorem Serves.reachable (hs : s.Serves) : s.Reachable := by
  obtain ⟨s₀, hnew, -, -, hrun⟩ := hs
  exact ⟨s₀, hnew, hrun⟩

theorem Serves.orderly (hs : s.Serves) : s.core.Orderly s.tasks := hs.reachable.orderly

/-- Connections are apart from each other at any time. -/
theorem Serves.kept (hs : s.Serves) : s.core.Kept := by
  obtain ⟨s₀, hnew, hserving, hflushes, hrun⟩ := hs
  -- a new schedule has no connections; a step keeps them apart while order holds
  induction hrun with
  | refl =>
    have hsize : s₀.core.size = 0 := hnew.size
    refine ⟨hserving, hflushes, ?_, ?_, ?_⟩
    · intro i hi
      omega
    · intro i j hi
      omega
    · intro i hi
      omega
  | @tail t u m hrun hallowed hstep ih =>
    have ht : t.Reachable := ⟨s₀, hnew, hrun⟩
    exact hstep.kept ih ht.orderly

theorem Serves.leads {allowed : Schedule (Recorded Depot) → Move → Prop} (hs : s.Serves)
    (hrun : Leads allowed s t) : t.Serves := by
  obtain ⟨s₀, hnew, hserving, hflushes, hbefore⟩ := hs
  exact ⟨s₀, hnew, hserving, hflushes, hbefore.trans (hrun.mono fun _ _ _ => trivial)⟩

theorem Serves.step {m : Move} (hs : s.Serves) (hstep : Step s m t) : t.Serves := by
  obtain ⟨s₀, hnew, hserving, hflushes, hbefore⟩ := hs
  exact ⟨s₀, hnew, hserving, hflushes, hbefore.tail trivial hstep⟩

/-- The schedule of a connector that has just been opened. -/
theorem serves_connector {settings : Settings} {files : Files} {log : Log} {c : Connector Depot}
    (hopen : Depot.connector settings files log = .ok c) :
    ({ connector := c.recorded } : Schedule (Recorded Depot)).Serves := by
  obtain ⟨hserving, hflushes, hconnections, hlocks⟩ := Depot.connector_begins hopen
  exact ⟨{ connector := c.recorded }, ⟨hconnections, hlocks, rfl⟩, hserving, hflushes, .refl⟩

/-- A new schedule over an open main repository in memory. -/
def openStart : Schedule (Recorded Depot) :=
  fresh ⟨(Depot.initialize_ Depot.main (Depot.ofSettings {} default, [])).2.1, []⟩

theorem serves_openStart : openStart.Serves :=
  ⟨openStart, isNew_fresh _, .memory rfl rfl, rfl, .refl⟩

end Schedule

end GraphCommit
