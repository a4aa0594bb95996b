import GraphCommit.Proofs.Mirror
import GraphCommit.Proofs.Order

/-!
# Schedules that mirror each other

If the connectors of two schedules mirror each other and their connections are in the middle of the
same, then the same moves are possible in both (`Mirror.next`), and after the same moves the
schedules mirror each other again (`Mirror.follow`).
-/

namespace GraphCommit

open Effect

variable {S : Type} [Backend S] {R : Outside S → Outside S → Prop} {π : Holder → Holder}
  {ρ : ClientId → ClientId} {past : List Notice} {enough i : Nat}

/-! ## Pieces between which others may act -/

namespace Connector

section

variable (hmirrors : Mirrors R ρ) (hπ : Function.Injective π)

include hmirrors hπ

theorem agree_beginAccess (hi : i < enough) (a : Access) :
    Agree (Mirror R π ρ past enough) Eq (beginAccess i a : Run S Task) (beginAccess i a) := by
  unfold beginAccess
  exact (agree_ask hmirrors hπ hi a.mode).next fun _ => agree_pure rfl

theorem agree_beginRelease (hi : i < enough) :
    Agree (Mirror R π ρ past enough) Eq (beginRelease i : Run S Task) (beginRelease i) := by
  unfold beginRelease
  refine (agree_connectionAt hi).bind fun x y hxy => ?_
  rw [hxy]
  refine (agree_note hmirrors _ _ _ _ (by simp)).next fun _ => ?_
  -- what there is to derive is read from the journal, which is the same
  have hcontext : (x.under π ρ).derivedContext? = x.derivedContext? := rfl
  rw [hcontext]
  cases x.derivedContext? with
  | none => exact agree_pure rfl
  | some context => exact (agree_ask hmirrors hπ hi .exclusive).next fun _ => agree_pure rfl

omit [Backend S] hmirrors hπ in
theorem agree_proceed (ticket : Nat) (work : Work) :
    Agree (Mirror R π ρ past enough) Eq (proceed ticket work : Run S Task)
      (proceed ticket work) := by
  refine agree_get.bind fun c d hc => ?_
  rw [agree_outcome ticket hc]
  cases c.outcome ticket with
  | ok _ => exact agree_pure rfl
  | error f => exact agree_pure rfl

omit hπ in
theorem agree_carryOut (haudit : ∀ {o o' : Outside S} (message : String), R o o' →
      R (o.note .info Record.audit message) (o'.note .info Record.audit message))
    (hi : i < enough) (work : Work) :
    Agree (Mirror R π ρ past enough) Eq (carryOut i work : Run S Task) (carryOut i work) := by
  cases work with
  | write w =>
    exact (agree_observe (agree_perform hmirrors haudit hi w)).next fun _ => agree_pure rfl
  | select text => exact (agree_query hmirrors hi text).next fun _ => agree_pure rfl
  | derive context writes =>
    exact (agree_observe (agree_derive hmirrors hi context writes)).next fun _ => agree_pure rfl

omit [Backend S] hmirrors in
theorem agree_endQuery (hi : i < enough) :
    Agree (Mirror R π ρ past enough) Eq (endQuery i : Run S Task) (endQuery i) :=
  (agree_unlockRead hπ hi).next fun _ => agree_pure rfl

omit [Backend S] hmirrors hπ in
/-- Listeners stay with the connection. -/
theorem agree_told (hi : i < enough) (kind : EventKind) (error : Option String) :
    Agree (Mirror R π ρ past enough) Eq
      (do return .told kind error (← connectionAt i).listeners : Run S Task)
      (do return .told kind error (← connectionAt i).listeners) := by
  refine (agree_connectionAt hi).bind fun x y hxy => ?_
  rw [hxy]
  exact agree_pure rfl

omit hπ in
theorem agree_endRelease (hi : i < enough)
    (derived : Except Fault (Option Derivation.Report)) :
    Agree (Mirror R π ρ past enough) Eq (endRelease i derived : Run S Task)
      (endRelease i derived) := by
  refine Agree.next (x := noteDerivation i derived) ?_ fun _ =>
    agree_told hi .closed none
  cases derived with
  | ok report => exact agree_pure rfl
  | error f =>
    refine (agree_connectionAt hi).bind fun x y hxy => ?_
    exact agree_note hmirrors _ _ _ _ (by simp)

omit hπ in
theorem agree_endWithError (hi : i < enough) (f : Fault) :
    Agree (Mirror R π ρ past enough) Eq (endWithError i f : Run S Task) (endWithError i f) := by
  refine Agree.next (x := noteError i f) ?_ fun _ =>
    agree_told hi .errorOccurred (some f.message)
  refine (agree_connectionAt hi).bind fun x y hxy => ?_
  exact agree_note hmirrors _ _ _ _ (by simp)

theorem agree_tellNext (hi : i < enough) (kind : EventKind) (error : Option String)
    {l : Listener} (rest : List Listener)
    (hcleans : ∀ other, l.cleans = some other → other < enough) :
    Agree (Mirror R π ρ past enough) Eq (tellNext i kind error l rest : Run S Task)
      (tellNext i kind error l rest) := by
  refine (agree_connectionAt hi).bind fun x y hxy => ?_
  rw [hxy]
  exact (agree_tell hmirrors hπ kind x.holder error hcleans).next fun _ => agree_pure rfl

end

end Connector

/-! ## Moves -/

/-- The move where holders go by other names.  Only a call that waits is named by its holder. -/
def Move.rename (π : Holder → Holder) : Move → Move
  | expire call => expire (call.rename π)
  | m => m

namespace Schedule

open Connector hiding Mirror

/-- Connectors that mirror each other, with connections that are in the middle of the same. -/
structure Mirror (R : Outside S → Outside S → Prop) (π : Holder → Holder)
    (ρ : ClientId → ClientId) (past : List Notice) (s r : Schedule S) : Prop where
  connector : Connector.Mirror R π ρ past s.size s.connector r.connector
  tasks : r.tasks = s.tasks

variable {s r : Schedule S}

omit [Backend S] in
theorem Mirror.size (hs : Mirror R π ρ past s r) : r.size = s.size := by
  change r.connector.connections.length = _
  rw [hs.connector.connections, List.length_map]
  rfl

omit [Backend S] in
theorem Mirror.isFree (hs : Mirror R π ρ past s r) : r.IsFree i ↔ s.IsFree i := by
  rw [IsFree, IsFree, hs.size, hs.tasks]

omit [Backend S] in
theorem Mirror.mayTell (hs : Mirror R π ρ past s r) {l : Listener} :
    r.MayTell i l ↔ s.MayTell i l := by
  simp only [MayTell, hs.isFree]

omit [Backend S] in
theorem Mirror.after {α : Type} {V : α → α → Prop} {x y : Connector.Run S α}
    (hs : Mirror R π ρ past s r) (hx : Agree (Connector.Mirror R π ρ past s.size) V x y) :
    Mirror R π ρ past (s.after x) (r.after y) where
  connector := { (hx _ _ hs.connector).states with size := Nat.le_refl _ }
  tasks := hs.tasks

omit [Backend S] in
theorem Mirror.turn {x y : Connector.Run S Task} (hs : Mirror R π ρ past s r) (i : Nat)
    (hx : Agree (Connector.Mirror R π ρ past s.size) Eq x y) :
    Mirror R π ρ past (s.turn i x) (r.turn i y) := by
  have hends := hx _ _ hs.connector
  unfold Schedule.turn
  generalize x s.connector = done at hends ⊢
  generalize y r.connector = done' at hends ⊢
  cases hends with
  | @returns task task' c d h =>
    obtain ⟨rfl, hc⟩ := h
    exact ⟨{ hc with size := Nat.le_refl _ }, by rw [hs.tasks]⟩
  | fails hc => exact ⟨{ hc with size := Nat.le_refl _ }, hs.tasks⟩

omit [Backend S] in
/-- A move that has one and the same guard in both. -/
theorem rel_of_guard {p q : Prop} [Decidable p] [Decidable q] {Q : Schedule S → Schedule S → Prop}
    (hguard : q ↔ p) (hsame : p → Q s r) :
    Option.Rel Q (if p then some s else none) (if q then some r else none) := by
  by_cases hp : p
  · rw [if_pos hp, if_pos (hguard.mpr hp)]
    exact .some (hsame hp)
  · rw [if_neg hp, if_neg fun hq => hp (hguard.mp hq)]
    exact .none

section

variable (hmirrors : Mirrors R ρ) (hπ : Function.Injective π)
  (haudit : ∀ {o o' : Outside S} (message : String), R o o' →
    R (o.note .info Record.audit message) (o'.note .info Record.audit message))

include hmirrors hπ haudit

/-- The same moves are possible in both. -/
theorem Mirror.next (hs : Mirror R π ρ past s r) (ho : s.core.Orderly s.tasks) (m : Move) :
    Option.Rel (Mirror R π ρ past) (s.next m) (r.next (m.rename π)) := by
  -- whoever has a task is one of the connections, so that what it does next is mirrored
  have hbusy : ∀ {i : Nat}, s.tasks i ≠ .idle → i < s.size := fun htask => ho.lt_of_task htask
  have htasks := hs.tasks
  cases m with
  | connect => exact .some (hs.after (agree_connect hmirrors))
  | connectWith strategy => exact .some (hs.after (agree_connectWith hmirrors strategy))
  | getHandle i =>
    exact rel_of_guard hs.isFree fun hfree => hs.after (agree_getHandle hmirrors hfree.1)
  | invalidate h => exact .some (hs.after (agree_invalidate h))
  | listen i l => exact rel_of_guard hs.isFree fun _ => hs.after (agree_addListener i l)
  | unlisten i l => exact rel_of_guard hs.isFree fun _ => hs.after (agree_removeListener i l)
  | beginAccess i a =>
    exact rel_of_guard hs.isFree fun hfree =>
      hs.turn i (agree_beginAccess hmirrors hπ hfree.1 a)
  | beginRelease i =>
    exact rel_of_guard hs.isFree fun hfree =>
      hs.turn i (agree_beginRelease hmirrors hπ hfree.1)
  | expire call =>
    refine rel_of_guard ?_ fun _ => hs.after (agree_expire hmirrors hπ call)
    rw [hs.connector.locks]
    exact and_congr Iff.rfl (LockManager.mem_waiting_rename hπ)
  | proceed i =>
    simp only [Move.rename, Schedule.next, htasks]
    cases s.tasks i with
    | waiting ticket work =>
      refine rel_of_guard ?_ fun _ => hs.turn i (agree_proceed ticket work)
      rw [hs.connector.locks, LockManager.isWaiting_rename]
    | _ => exact .none
  | carryOut i =>
    have hi := hbusy (i := i)
    simp only [Move.rename, Schedule.next, htasks]
    cases htask : s.tasks i with
    | ready work =>
      exact .some (hs.turn i (agree_carryOut hmirrors haudit (hi (by simp [htask])) work))
    | _ => exact .none
  | endQuery i =>
    have hi := hbusy (i := i)
    simp only [Move.rename, Schedule.next, htasks]
    cases htask : s.tasks i with
    | reading result => exact .some (hs.turn i (agree_endQuery hπ (hi (by simp [htask]))))
    | _ => exact .none
  | endRelease i =>
    have hi := hbusy (i := i)
    simp only [Move.rename, Schedule.next, htasks]
    cases htask : s.tasks i with
    | closing derived =>
      exact .some (hs.turn i (agree_endRelease hmirrors (hi (by simp [htask])) derived))
    | _ => exact .none
  | endWithError i f =>
    exact rel_of_guard hs.isFree fun hfree => hs.turn i (agree_endWithError hmirrors hfree.1 f)
  | tell i =>
    have hi := hbusy (i := i)
    simp only [Move.rename, Schedule.next, htasks]
    cases htask : s.tasks i with
    | telling kind error listeners =>
      cases listeners with
      | nil => exact .none
      | cons l rest =>
        -- the listener may clean another connection, and there has to be that one as well
        refine rel_of_guard hs.mayTell fun htell => hs.turn i ?_
        refine agree_tellNext hmirrors hπ (hi (by simp [htask])) kind error rest fun other hl => ?_
        rcases htell other hl with rfl | hfree
        · exact hi (by simp [htask])
        · exact hfree.1
    | _ => exact .none
  | coordinate i command =>
    refine rel_of_guard (by rw [hs.size]) fun hi => ?_
    exact ⟨{ (mirror_coordinate hmirrors hi command hs.connector).2 with size := Nat.le_refl _ },
      hs.tasks⟩
  | cleanup i =>
    exact rel_of_guard hs.isFree fun hfree => hs.after (agree_cleanup hmirrors hπ hfree.1)
  | destroy i =>
    exact rel_of_guard hs.isFree fun hfree => hs.after (agree_destroy hmirrors hfree.1)

/-- After the same moves they mirror each other again. -/
theorem Mirror.follow (hs : Mirror R π ρ past s r) (hreachable : s.Reachable) (moves : List Move) :
    Option.Rel (Mirror R π ρ past) (s.follow moves) (r.follow (moves.map (Move.rename π))) := by
  induction moves generalizing s r with
  | nil => exact .some hs
  | cons m rest ih =>
    have hnext := hs.next hmirrors hπ haudit hreachable.orderly m
    change Option.Rel _ ((s.next m).bind (·.follow rest))
      ((r.next (m.rename π)).bind (·.follow (rest.map (Move.rename π))))
    generalize hpossible : s.next m = done at hnext ⊢
    generalize r.next (m.rename π) = done' at hnext ⊢
    cases hnext with
    | none => exact .none
    | some hmirror =>
      obtain ⟨s₀, hnew, hrun⟩ := hreachable
      exact ih hmirror ⟨s₀, hnew, hrun.tail trivial (step_iff.mpr hpossible)⟩

omit hπ haudit in
/-- The coordinator is answered alike. -/
theorem Mirror.answer (hs : Mirror R π ρ past s r) (hi : i < s.size) (command : Command) :
    r.answer i command = s.answer i command :=
  (Connector.mirror_coordinate hmirrors hi command hs.connector).1.symm

end

end Schedule

end GraphCommit
