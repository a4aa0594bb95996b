import Mathlib.Logic.Relation
import GraphCommit.Proofs.Lock.Manager

/-!
# Runs of the lock

All that can be done with a lock is an `Operation`: a holder is registered, asks for the lock,
releases what it has, or the time limit of one of its waiting calls is over.  The operations of all
holders come in any order, so the runs of operations are all interleavings of calls.

An operation `TakesTurns` if its holder was handed out by this lock and no call of it waits, so
that the calls of one holder do not overlap.  A lock that is `Reachable` by such operations is
coherent, and what an operation is done for one holder it spares the others (`after_spares`).
-/

namespace GraphCommit

namespace Lock

/-- What may be done with a lock. -/
inductive Operation where
  | register
  | ask (h : Holder) (mode : Mode)
  | unlockRead (h : Holder)
  | unlockAll (h : Holder)
  /-- The time limit of a waiting call is over. -/
  | expire (c : Call)
  deriving DecidableEq, Repr

/-- The holder on whose behalf an operation is done. -/
def Operation.holder? : Operation → Option Holder
  | .register => none
  | .ask h _ => some h
  | .unlockRead h => some h
  | .unlockAll h => some h
  | .expire c => some c.holder

/-- What operations lead to, each of which is allowed where it is done. -/
def Runs {σ ω : Type} (after : σ → ω → σ) (allowed : σ → ω → Prop) : σ → σ → Prop :=
  Relation.ReflTransGen fun s t => ∃ op, allowed s op ∧ t = after s op

theorem Runs.refl {σ ω : Type} {after : σ → ω → σ} {allowed : σ → ω → Prop} (s : σ) :
    Runs after allowed s s := Relation.ReflTransGen.refl

theorem Runs.then {σ ω : Type} {after : σ → ω → σ} {allowed : σ → ω → Prop} {s t : σ}
    (hrun : Runs after allowed s t) (op : ω) (hop : allowed t op) :
    Runs after allowed s (after t op) := Relation.ReflTransGen.tail hrun ⟨op, hop, rfl⟩

/-- What every allowed operation keeps is kept by a run. -/
theorem Runs.keeps {σ ω : Type} {after : σ → ω → σ} {allowed : σ → ω → Prop} {P : σ → Prop}
    {s t : σ} (hkeeps : ∀ s op, P s → allowed s op → P (after s op)) (hs : P s)
    (hrun : Runs after allowed s t) : P t := by
  induction hrun with
  | refl => exact hs
  | tail hrun hstep ih =>
    obtain ⟨op, hallowed, rfl⟩ := hstep
    exact hkeeps _ op ih hallowed

end Lock

namespace LockManager

open Lock

variable {m : LockManager} {h k : Holder} {mode : Mode} {op : Operation}

/-- The lock after an operation. -/
def after (m : LockManager) : Operation → LockManager
  | .register => m.register.2
  | .ask h mode => (m.lock h mode).2
  | .unlockRead h => m.unlockRead h
  | .unlockAll h => m.unlockAll h
  | .expire c => m.expire c

/-- A time limit can only be over if there is one and a call waits. -/
def IsPossible (m : LockManager) : Operation → Prop
  | .expire c => m.timeout.isSome ∧ c ∈ m.waiting
  | _ => True

/-- Whether a holder was handed out and has no call under way. -/
def IsFree (m : LockManager) (h : Holder) : Prop := h.number ≤ m.registered ∧ m.IsQuiet h

/-- Whether an operation is possible and does not overlap with another one of its holder. -/
def TakesTurns (m : LockManager) : Operation → Prop
  | .register => True
  | .ask h _ => m.IsFree h
  | .unlockRead h => m.IsFree h
  | .unlockAll h => m.IsFree h
  | .expire c => m.IsPossible (.expire c)

/-- A lock that nobody has used. -/
def IsNew (m : LockManager) : Prop := m = { timeout := m.timeout }

/-- What a new lock comes to when the calls of each holder take turns. -/
def Reachable (m : LockManager) : Prop := ∃ m₀ : LockManager, m₀.IsNew ∧ Runs after TakesTurns m₀ m

instance : (m : LockManager) → (op : Operation) → Decidable (m.IsPossible op)
  | m, .expire c => inferInstanceAs (Decidable (m.timeout.isSome = true ∧ c ∈ m.waiting))
  | _, .register => .isTrue trivial
  | _, .ask .. => .isTrue trivial
  | _, .unlockRead _ => .isTrue trivial
  | _, .unlockAll _ => .isTrue trivial

instance (m : LockManager) (h : Holder) : Decidable (m.IsFree h) :=
  inferInstanceAs (Decidable (h.number ≤ m.registered ∧ ∀ c ∈ m.waiting, c.holder ≠ h))

instance : (m : LockManager) → (op : Operation) → Decidable (m.TakesTurns op)
  | _, .register => .isTrue trivial
  | m, .ask h _ => inferInstanceAs (Decidable (m.IsFree h))
  | m, .unlockRead h => inferInstanceAs (Decidable (m.IsFree h))
  | m, .unlockAll h => inferInstanceAs (Decidable (m.IsFree h))
  | m, .expire c => inferInstanceAs (Decidable (m.IsPossible (.expire c)))

/-! ## What an operation keeps -/

theorem after_coherent (hm : m.Coherent) (hop : m.TakesTurns op) : (m.after op).Coherent := by
  cases op with
  | register => exact register_coherent hm
  | ask h mode => exact lock_coherent hm hop.2 hop.1 mode
  | unlockRead h => exact unlockRead_coherent hm hop.2
  | unlockAll h => exact unlockAll_coherent hm hop.2
  | expire c => exact expire_coherent hm hop.2

/-- What is done for one holder is done to no other one. -/
theorem after_spares (hm : m.Coherent) (hop : m.TakesTurns op) (hk : op.holder? ≠ some k) :
    ∃ h, h ≠ k ∧ Spares h m (m.after op) := by
  have hne : ∀ h, op.holder? = some h → h ≠ k := fun h hh heq => hk (heq ▸ hh)
  cases op with
  | register =>
    -- a new holder is nobody yet, so any holder but `k` may stand for it
    refine ⟨⟨k.number + 1⟩, fun heq => ?_, register_spares _ m⟩
    exact Nat.succ_ne_self _ (congrArg Holder.number heq)
  | ask h mode => exact ⟨h, hne h rfl, lock_spares hm hop.2 mode⟩
  | unlockRead h => exact ⟨h, hne h rfl, unlockRead_spares hm hop.2⟩
  | unlockAll h => exact ⟨h, hne h rfl, unlockAll_spares hm hop.2⟩
  | expire c => exact ⟨c.holder, hne c.holder rfl, expire_spares hm hop.2⟩

/-- A granted lock is never taken away by what is done for another holder. -/
theorem after_grants (hm : m.Coherent) (hop : m.TakesTurns op) (hk : op.holder? ≠ some k)
    (hgrants : m.requests.Grants k mode) : (m.after op).requests.Grants k mode := by
  obtain ⟨h, hne, hspares⟩ := after_spares hm hop hk
  exact hspares.grants k mode (Ne.symm hne) hgrants

theorem IsNew.coherent (hm : m.IsNew) : m.Coherent := by
  rw [IsNew] at hm
  rw [hm]
  constructor <;> simp [Queue.IsSingle]

theorem Reachable.after (hm : m.Reachable) (hop : m.TakesTurns op) : (m.after op).Reachable := by
  obtain ⟨m₀, hnew, hrun⟩ := hm
  exact ⟨m₀, hnew, hrun.then op hop⟩

theorem Reachable.coherent (hm : m.Reachable) : m.Coherent := by
  obtain ⟨m₀, hnew, hrun⟩ := hm
  exact hrun.keeps (fun _ _ hm hop => after_coherent hm hop) hnew.coherent

end LockManager

end GraphCommit
