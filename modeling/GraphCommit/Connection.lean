import GraphCommit.Branch.Participant
import GraphCommit.Lock.Queue

/-!
# Managed connections

A managed connection is one holder of the repository lock with the participant of the branch that
it serves.  It hands out handles.  Each handle has a token, and works as long as the flag of its
token is up.  A connection hands out the token that it has, and a new one only if it has none or the
flag is down; so it never has two tokens whose flags are up (`Tokens.single`).  Listeners hear when
a handle was closed or an error was reported; a listener may answer by cleaning a connection, as a
pool does.
-/

namespace GraphCommit

/-- A receiver of events.  It may clean a connection whenever it hears something. -/
structure Listener where
  id : Nat
  /-- The index of the connection to clean. -/
  cleans : Option Nat := none
  deriving DecidableEq, Repr

/-- Why a listener is called. -/
inductive EventKind where
  | closed
  | errorOccurred
  deriving DecidableEq, Repr

/-- What listeners have heard and done. -/
inductive Notice where
  | heard (listener : Nat) (kind : EventKind) (holder : Holder) (error : Option String)
  | cleaned (listener : Nat) (result : Except Fault Unit)
  deriving Repr

/-- A handle: the connection with the given index, used through a token. -/
structure Handle where
  connection : Nat
  token : Nat
  deriving DecidableEq, Repr

/-! ## Tokens -/

/-- The tokens that a connection has handed out, by their numbers. -/
structure Tokens where
  /-- For each token, whether it is valid. -/
  flags : List Bool := []
  /-- The token that is handed out again as long as it is valid. -/
  current : Option Nat := none
  /-- No other token is valid.  Whatever is done with tokens is proved to keep to that. -/
  single : ∀ t, flags[t]? = some true → current = some t
  deriving Repr

namespace Tokens

theorem no_flag (t : Nat) : ([] : List Bool)[t]? ≠ some true := by
  rw [List.getElem?_nil]
  exact (Option.some_ne_none true).symm

/-- No tokens. -/
def empty : Tokens := ⟨[], none, fun t hflag => absurd hflag (no_flag t)⟩

instance : Inhabited Tokens := ⟨empty⟩

variable {x : Tokens} {t : Nat}

/-- How many tokens were handed out. -/
def issued (x : Tokens) : Nat := x.flags.length

def isValid (x : Tokens) (t : Nat) : Bool := x.flags[t]? == some true

/-- The token that is handed out again, if it is valid. -/
def valid (x : Tokens) : Option Nat := x.current.filter x.isValid

theorem valid_iff : x.valid = some t ↔ x.flags[t]? = some true := by
  have hflag : x.isValid t = true ↔ x.flags[t]? = some true := by simp [isValid]
  rw [valid, Option.filter_eq_some_iff, hflag]
  exact ⟨fun h => h.2, fun h => ⟨x.single t h, h⟩⟩

theorem isValid_iff : x.isValid t = true ↔ x.valid = some t := by
  rw [valid_iff]
  simp [isValid]

theorem lt_issued (hvalid : x.valid = some t) : t < x.issued :=
  (List.getElem?_eq_some_iff.mp (valid_iff.mp hvalid)).1

/-- A new token is the only valid one if there was none. -/
theorem single_add (hnone : x.valid = none) (t : Nat)
    (hflag : (x.flags ++ [true])[t]? = some true) : some x.issued = some t := by
  by_cases ht : t < x.issued
  · rw [List.getElem?_append_left ht] at hflag
    have hvalid := valid_iff.mpr hflag
    rw [hnone] at hvalid
    contradiction
  · have hlt := (List.getElem?_eq_some_iff.mp hflag).1
    rw [List.length_append, List.length_singleton] at hlt
    exact congrArg some (Nat.le_antisymm (Nat.le_of_not_lt ht) (Nat.le_of_lt_succ hlt))

/-- A flag that is up after another one was taken down was up before. -/
theorem up_of_set {u : Nat} (hflag : (x.flags.set t false)[u]? = some true) :
    u ≠ t ∧ x.flags[u]? = some true ∧ x.current = some u := by
  rw [List.getElem?_set] at hflag
  split at hflag
  · split at hflag <;> simp at hflag
  · next hne => exact ⟨Ne.symm hne, hflag, x.single u hflag⟩

/-- The token that is handed out, and whether it had to be made. -/
def give (x : Tokens) : Nat × Bool × Tokens :=
  match hvalid : x.valid with
  | some t => (t, false, x)
  | none => (x.issued, true, ⟨x.flags ++ [true], some x.issued, single_add hvalid⟩)

theorem give_of_valid (hvalid : x.valid = some t) : x.give = (t, false, x) := by
  unfold give
  split
  · next u hvalid' => rw [Option.some.inj (hvalid'.symm.trans hvalid)]
  · next hnone => simp [hnone] at hvalid

/-- A new token has a new number, and is valid. -/
theorem give_of_none (hnone : x.valid = none) : x.give.1 = x.issued ∧
    x.give.2.2.issued = x.issued + 1 ∧ x.give.2.2.valid = some x.issued := by
  unfold give
  split
  · next t hvalid => simp [hnone] at hvalid
  · exact ⟨rfl, by simp [issued], valid_iff.mpr (by simp [issued])⟩

/-- Takes down the flag of a token. -/
def revoke (x : Tokens) (t : Nat) : Tokens :=
  ⟨x.flags.set t false, x.current, fun _ hflag => (up_of_set hflag).2.2⟩

theorem issued_revoke (x : Tokens) (t : Nat) : (x.revoke t).issued = x.issued :=
  List.length_set

theorem valid_of_revoke {u : Nat} (hvalid : (x.revoke t).valid = some u) :
    u ≠ t ∧ x.valid = some u := by
  obtain ⟨hne, hflag, -⟩ := up_of_set (valid_iff.mp hvalid)
  exact ⟨hne, valid_iff.mpr hflag⟩

/-- The flags when that of the token that would be handed out again is taken down. -/
def withdrawn (x : Tokens) : List Bool :=
  match x.current with
  | some t => x.flags.set t false
  | none => x.flags

/-- All of them are down. -/
theorem withdrawn_down (x : Tokens) (t : Nat) : x.withdrawn[t]? ≠ some true := by
  intro hflag
  unfold withdrawn at hflag
  split at hflag
  · next u hcurrent =>
    obtain ⟨hne, -, hcurrent'⟩ := up_of_set hflag
    exact hne (Option.some.inj (hcurrent'.symm.trans hcurrent))
  · next hcurrent =>
    have hsome := x.single t hflag
    rw [hcurrent] at hsome
    contradiction

/-- Takes down the flag of the token that would be handed out again.  The next one is new. -/
def withdraw (x : Tokens) : Tokens :=
  ⟨x.withdrawn, none, fun t hflag => absurd hflag (x.withdrawn_down t)⟩

theorem not_valid_withdraw (x : Tokens) : x.withdraw.valid ≠ some t :=
  (Option.some_ne_none t).symm

theorem issued_withdraw (x : Tokens) : x.withdraw.issued = x.issued := by
  unfold withdraw issued withdrawn
  dsimp only
  split
  · exact List.length_set
  · rfl

end Tokens

/-! ## Connections -/

/-- A connection to the main repository with the branch that it serves. -/
structure Connection where
  holder : Holder
  participant : Participant
  /-- Whether closing a handle derives the transformations of a registered service. -/
  derives : Bool
  listeners : List Listener := []
  tokens : Tokens := .empty
  deriving Repr, Inhabited

namespace Connection

def journal (c : Connection) : Journal := c.participant.journal

def client (c : Connection) : ClientId := c.participant.client

/-- The context whose transformations are derived when a handle is closed, if any are. -/
def derivedContext? (c : Connection) : Option String :=
  if c.derives then c.journal.serviceContext? else none

theorem writes_ne_nil_of_derivedContext? {c : Connection} {context : String}
    (hcontext : c.derivedContext? = some context) : c.journal.writes ≠ [] := by
  intro hempty
  unfold derivedContext? Journal.serviceContext? at hcontext
  rw [hempty] at hcontext
  split at hcontext <;> simp at hcontext

/-- Adds a write to the journal. -/
def append (c : Connection) (w : Write) : Connection :=
  { c with participant := { c.participant with journal := c.participant.journal.append w } }

def forgetBranch (c : Connection) : Connection :=
  { c with participant := c.participant.forgetBranch }

/-- How many tokens were handed out. -/
def issued (c : Connection) : Nat := c.tokens.issued

/-- The token that is valid, if there is one. -/
def valid (c : Connection) : Option Nat := c.tokens.valid

/-- The valid token, and whether it had to be made. -/
def token (c : Connection) : Nat × Bool × Connection :=
  let (t, isNew, tokens) := c.tokens.give
  (t, isNew, { c with tokens })

theorem holder_token (c : Connection) : c.token.2.2.holder = c.holder := rfl

theorem participant_token (c : Connection) : c.token.2.2.participant = c.participant := rfl

/-- Makes a token invalid. -/
def invalidate (c : Connection) (token : Nat) : Connection :=
  { c with tokens := c.tokens.revoke token }

theorem holder_invalidate (c : Connection) (token : Nat) :
    (c.invalidate token).holder = c.holder := rfl

theorem participant_invalidate (c : Connection) (token : Nat) :
    (c.invalidate token).participant = c.participant := rfl

/-- Forgets the handle, the branch and its writes. -/
def reset (c : Connection) : Connection :=
  { c with tokens := c.tokens.withdraw, participant := c.participant.reset }

def listen (c : Connection) (l : Listener) : Connection :=
  { c with listeners := c.listeners ++ [l] }

/-- Takes out every registration of a listener. -/
def unlisten (c : Connection) (l : Listener) : Connection :=
  { c with listeners := c.listeners.filter (fun m => m.id != l.id) }

end Connection

end GraphCommit
