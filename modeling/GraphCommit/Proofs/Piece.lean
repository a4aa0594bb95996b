import GraphCommit.Proofs.Mirror
import GraphCommit.Proofs.Order

/-!
# Operations in pieces, in any order

Every operation of a connector is made of a few pieces, each of which has to do once with what the
connections share: a call of the lock, a question to the stores with what is kept of its answer, a
call of the coordinator.  A connector can `follow` any pieces one after another.  Nothing is said of
who goes next or of what was granted to whom, so among these runs are all that any number of threads
can bring about, also several threads on one connection.

In particular the steps of a schedule consist of pieces (`Step.pieces`).
-/

namespace GraphCommit

/-- A piece of an operation. -/
inductive Piece where
  | connect
  | connectWith (strategy : Strategy)
  | getHandle (i : Nat)
  | invalidate (h : Handle)
  | listen (i : Nat) (l : Listener)
  | unlisten (i : Nat) (l : Listener)
  | ask (i : Nat) (mode : Lock.Mode)
  /-- The time limit of a waiting call is over. -/
  | expire (call : Lock.Call)
  /-- Sees how a call for the lock has ended. -/
  | look (ticket : Nat)
  | write (i : Nat) (w : Write)
  | select (i : Nat) (text : String)
  | unlockRead (i : Nat)
  | derive (i : Nat) (context : String) (writes : List Write)
  /-- A message that names the holder of a connection. -/
  | report (i : Nat) (level : Level) (before after : String)
  | tell (i : Nat) (kind : EventKind) (error : Option String) (l : Listener)
  | coordinate (i : Nat) (command : Command)
  | cleanup (i : Nat)
  | destroy (i : Nat)

/-- What a piece returns. -/
inductive Outcome where
  | done
  | connected (i : Nat)
  | given (h : Handle)
  | asked (answer : Lock.Answer)
  | selected (result : Except Fault (List Row))
  | derived (report : Derivation.Report)
  | answered (answer : Except BranchFault (Option Vote))

namespace Piece

/-- The connection whose operation a piece belongs to. -/
def actor? : Piece → Option Nat
  | connect => none
  | connectWith _ => none
  | expire _ => none
  | look _ => none
  | getHandle i => some i
  | invalidate h => some h.connection
  | listen i _ => some i
  | unlisten i _ => some i
  | ask i _ => some i
  | write i _ => some i
  | select i _ => some i
  | unlockRead i => some i
  | derive i _ _ => some i
  | report i _ _ _ => some i
  | tell i _ _ _ => some i
  | coordinate i _ => some i
  | cleanup i => some i
  | destroy i => some i

/-- The connection that a piece cleans, be it through a listener. -/
def cleaned? : Piece → Option Nat
  | cleanup i => some i
  | tell _ _ _ l => l.cleans
  | _ => none

def isWrite : Piece → Bool
  | write .. => true
  | _ => false

/-- The connections that a piece names exist. -/
def Fits {S : Type} (p : Piece) (c : Connector S) : Prop :=
  ∀ i, p.actor? = some i ∨ p.cleaned? = some i → i < c.connections.length

theorem fits_of_none {S : Type} {c : Connector S} {p : Piece} (hactor : p.actor? = none)
    (hcleaned : p.cleaned? = none) : p.Fits c := by
  simp [Fits, hactor, hcleaned]

theorem fits_of_lt {S : Type} {c : Connector S} {p : Piece} {i : Nat}
    (hi : i < c.connections.length) (hactor : p.actor? = some i) (hcleaned : p.cleaned? = none) :
    p.Fits c := by
  rintro j (hj | hj)
  · obtain rfl := Option.some.inj (hactor.symm.trans hj)
    exact hi
  · rw [hcleaned] at hj
    contradiction

variable {S : Type} [Backend S]

open Connector in
def run : Piece → Connector.Run S Outcome
  | .connect => .connected <$> Connector.connect
  | .connectWith strategy => .connected <$> Connector.connectWith strategy
  | .getHandle i => .given <$> Connector.getHandle i
  | .invalidate h => (fun _ => .done) <$> Connector.invalidate h
  | .listen i l => (fun _ => .done) <$> addListener i l
  | .unlisten i l => (fun _ => .done) <$> removeListener i l
  | .ask i mode => .asked <$> Connector.ask i mode
  | .expire call => (fun _ => .done) <$> Connector.expire call
  | .look ticket => do
    match (← get).outcome ticket with
    | .ok _ => return .done
    | .error f => fail f
  | .write i w => (fun _ => .done) <$> perform i w
  | .select i text => .selected <$> query i text
  | .unlockRead i => (fun _ => .done) <$> Connector.unlockRead i
  | .derive i context writes => .derived <$> Connector.derive i context writes
  | .report i level before after => do
    note level Record.connections (before ++ (← connectionAt i).holder.text ++ after)
    return .done
  | .tell i kind error l => do
    Connector.tell kind (← connectionAt i).holder error l
    return .done
  | .coordinate i command => fun c =>
    let (answer, c) := Connector.coordinate i command.call c
    (.ok (.answered answer), c)
  | .cleanup i => (fun _ => .done) <$> Connector.cleanup i
  | .destroy i => (fun _ => .done) <$> Connector.destroy i

end Piece

namespace Connector

theorem observe_snd {S α : Type} (r : Run S α) (c : Connector S) : (observe r c).2 = (r c).2 := by
  unfold observe
  rcases r c with ⟨(f | _) | a, d⟩ <;> rfl

variable {S : Type} [Backend S]

/-! ## Runs of pieces -/

/-- The connector after a piece. -/
def after (c : Connector S) (p : Piece) : Connector S := (p.run c).2

theorem after_report (c : Connector S) (i : Nat) (level : Level) (before tail : String) :
    c.after (.report i level before tail) =
      { c with
        outside := c.outside.note level Record.connections
          (before ++ (c.connection i).holder.text ++ tail) } := rfl

/-- The connector after some pieces. -/
def follow (c : Connector S) (ps : List Piece) : Connector S := ps.foldl after c

/-- What the pieces return. -/
def results (c : Connector S) : List Piece → List (Except Halt Outcome)
  | [] => []
  | p :: rest => (p.run c).1 :: (c.after p).results rest

/-- The pieces, each with the connector that it is run on. -/
def trail (c : Connector S) : List Piece → List (Connector S × Piece)
  | [] => []
  | p :: rest => (c, p) :: (c.after p).trail rest

/-- Every piece names existing connections in its turn. -/
def Allows (c : Connector S) : List Piece → Prop
  | [] => True
  | p :: rest => p.Fits c ∧ (c.after p).Allows rest

theorem follow_append (c : Connector S) (ps qs : List Piece) :
    c.follow (ps ++ qs) = (c.follow ps).follow qs := List.foldl_append

theorem trail_append (c : Connector S) (ps qs : List Piece) :
    c.trail (ps ++ qs) = c.trail ps ++ (c.follow ps).trail qs := by
  induction ps generalizing c with
  | nil => rfl
  | cons p rest ih => exact congrArg _ (ih (c.after p))

theorem allows_append {c : Connector S} {ps qs : List Piece} :
    c.Allows (ps ++ qs) ↔ c.Allows ps ∧ (c.follow ps).Allows qs := by
  induction ps generalizing c with
  | nil => simp [Allows, follow]
  | cons p rest ih =>
    change p.Fits c ∧ (c.after p).Allows (rest ++ qs) ↔ _
    rw [ih, ← and_assoc]
    rfl

end Connector

/-! ## What a piece does -/

namespace Connection

/-- What became of a connection, as far as its handles are concerned: a token that was made invalid
stays so. -/
structure NumbersOn (x y : Connection) : Prop where
  issued : x.issued ≤ y.issued
  retired : ∀ t, t < x.issued → x.valid ≠ some t → y.valid ≠ some t

theorem NumbersOn.refl (x : Connection) : x.NumbersOn x := ⟨Nat.le_refl _, fun _ _ h => h⟩

theorem NumbersOn.trans {x y z : Connection} (hfirst : x.NumbersOn y) (hsecond : y.NumbersOn z) :
    x.NumbersOn z where
  issued := Nat.le_trans hfirst.issued hsecond.issued
  retired := fun t ht hvalid =>
    hsecond.retired t (Nat.lt_of_lt_of_le ht hfirst.issued) (hfirst.retired t ht hvalid)

/-- The token that is handed out is valid then. -/
theorem valid_token (x : Connection) : x.token.2.2.valid = some x.token.1 := by
  cases hvalid : x.tokens.valid with
  | some t =>
    rw [token, Tokens.give_of_valid hvalid]
    exact hvalid
  | none =>
    obtain ⟨htoken, -, hnew⟩ := Tokens.give_of_none hvalid
    exact hnew.trans (congrArg some htoken.symm)

theorem numbersOn_token (x : Connection) : x.NumbersOn x.token.2.2 := by
  cases hvalid : x.tokens.valid with
  | some t =>
    have hsame : x.token.2.2 = x := by rw [token, Tokens.give_of_valid hvalid]
    rw [hsame]
    exact .refl x
  | none =>
    obtain ⟨-, hissued, hnew⟩ := Tokens.give_of_none hvalid
    constructor
    · exact Nat.le_trans (Nat.le_succ _) (Nat.le_of_eq hissued.symm)
    · intro t ht _ hsome
      exact Nat.ne_of_gt ht (Option.some.inj (hnew.symm.trans hsome))

theorem numbersOn_invalidate (x : Connection) (token : Nat) :
    x.NumbersOn (x.invalidate token) where
  issued := Nat.le_of_eq (x.tokens.issued_revoke token).symm
  retired := fun _ _ hvalid hsome => hvalid (Tokens.valid_of_revoke hsome).2

theorem numbersOn_reset (x : Connection) : x.NumbersOn x.reset where
  issued := Nat.le_of_eq x.tokens.issued_withdraw.symm
  retired := fun _ _ _ hsome => nomatch hsome

end Connection

namespace Piece

variable {S : Type} [Backend S] {k k' : Core S} {c : Connector S} {p : Piece} {i : Nat}

/-- A piece that neither writes nor cleans. -/
def IsPlain (p : Piece) : Prop := p.isWrite = false ∧ p.cleaned? = none

/-- What a piece does to the lock, the connections and the stores. -/
inductive Does (k : Core S) : Piece → Core S → Prop
  /-- No connection is made for want of a client. -/
  | createdNone {p : Piece} (hplain : p.IsPlain) : Does k p k.create
  | created {p : Piece} {client : ClientId} (strategy : Strategy) (derives : Bool)
      (hplain : p.IsPlain) (hclient : (Backend.create k.stores).result = .ok client) :
      Does k p (k.create.enlist client strategy derives)
  /-- Handles and listeners of a connection change. -/
  | kept {p : Piece} {i : Nat} {f : Connection → Connection} (hplain : p.IsPlain)
      (hparticipant : ∀ x, (f x).participant = x.participant)
      (hnumbers : ∀ x : Connection, x.NumbersOn (f x)) : Does k p (k.update i f)
  | locked {p : Piece} (locks : LockManager) (hplain : p.IsPlain) : Does k p { k with locks }
  /-- The stores are asked, and nothing is kept of the answer. -/
  | asked {p : Piece} (stores : S) (hplain : p.IsPlain) : Does k p { k with stores }
  | wrote {i : Nat} {w : Write} : Does k (.write i w) (k.perform i w)
  | coordinated {i : Nat} {command : Command} {q : Participant} {t : S}
      {answer : Except BranchFault (Option Vote)}
      (hobeys : (k.connection i).participant.Obeys k.stores command answer q t) :
      Does k (.coordinate i command) (k.enact i q t)
  | cleaned {p : Piece} {i : Nat} (hcleaned : p.cleaned? = some i) : Does k p (k.clean i)

theorem does_tell (i : Nat) (kind : EventKind) (error : Option String) (l : Listener)
    (c : Connector S) :
    Does c.core (.tell i kind error l) (c.after (.tell i kind error l)).core := by
  obtain ⟨d, hd, hcore⟩ := Connector.yields_tellNext i kind error l [] c
  have hsame : c.after (.tell i kind error l) = d := by
    have htold : (Connector.tell kind (c.connection i).holder error l c).2 = d := by
      have hsnd := congrArg Prod.snd hd
      rwa [Connector.tellNext, Effect.bind_apply, Connector.connectionAt_apply,
        Effect.bind_pure_snd] at hsnd
    rw [Connector.after, run, Effect.bind_apply, Connector.connectionAt_apply,
      Effect.bind_pure_snd, htold]
  rw [hsame, hcore]
  cases hcleans : l.cleans with
  | none => exact .asked c.core.stores ⟨rfl, hcleans⟩
  | some other => exact .cleaned hcleans

theorem does_after (p : Piece) (c : Connector S) : Does c.core p (c.after p).core := by
  cases p with
  | tell i kind error l => exact does_tell i kind error l c
  | connect =>
    rw [Connector.after, run, Effect.map_snd]
    rcases Connector.connect_cases c with hcore | ⟨client, hclient, hcore⟩
    · exact hcore ▸ .createdNone ⟨rfl, rfl⟩
    · exact hcore ▸ .created _ _ ⟨rfl, rfl⟩ hclient
  | connectWith strategy =>
    rw [Connector.after, run, Effect.map_snd]
    rcases Connector.connectWith_cases strategy c with hcore | ⟨client, hclient, hcore⟩
    · exact hcore ▸ .createdNone ⟨rfl, rfl⟩
    · exact hcore ▸ .created _ _ ⟨rfl, rfl⟩ hclient
  | getHandle i =>
    rw [Connector.after, run, Effect.map_snd, Connector.getHandle_core]
    exact .kept ⟨rfl, rfl⟩ Connection.participant_token Connection.numbersOn_token
  | invalidate h =>
    exact .kept ⟨rfl, rfl⟩ (fun x => x.participant_invalidate h.token)
      fun x => x.numbersOn_invalidate h.token
  | listen i l =>
    exact .kept ⟨rfl, rfl⟩ (fun _ => rfl) fun _ => ⟨Nat.le_refl _, fun _ _ h => h⟩
  | unlisten i l =>
    exact .kept ⟨rfl, rfl⟩ (fun _ => rfl) fun _ => ⟨Nat.le_refl _, fun _ _ h => h⟩
  | ask i mode =>
    rw [Connector.after, run, Effect.map_snd]
    obtain ⟨d, hd, hcore⟩ := Connector.yields_ask i mode c
    rw [hd, hcore]
    exact .locked _ ⟨rfl, rfl⟩
  | expire call =>
    rw [Connector.after, run, Effect.map_snd, Connector.expire_core]
    exact .locked _ ⟨rfl, rfl⟩
  | look ticket =>
    -- to look whether a call has returned changes nothing, whatever it has met with
    simp only [Connector.after, run, Effect.bind_apply, Effect.get_apply]
    cases c.outcome ticket <;> exact .locked c.locks ⟨rfl, rfl⟩
  | write i w =>
    rw [Connector.after, run, Effect.map_snd, (Connector.perform_ends i w c).core]
    exact .wrote
  | select i text =>
    rw [Connector.after, run, Effect.map_snd, Connector.query, Effect.bind_apply]
    simp only [Connector.connectionAt_apply, Connector.observe_job_apply]
    exact .asked _ ⟨rfl, rfl⟩
  | unlockRead i => exact .locked _ ⟨rfl, rfl⟩
  | derive i context writes =>
    rw [Connector.after, run, Effect.map_snd, Connector.derive, Effect.bind_apply]
    exact .asked _ ⟨rfl, rfl⟩
  | report i level before after => exact .asked c.core.stores ⟨rfl, rfl⟩
  | coordinate i command =>
    obtain ⟨q, t, hobeys, hcore⟩ := Connector.coordinate_obeys i command c
    change Does _ _ (Connector.coordinate i command.call c).2.core
    rw [hcore]
    exact .coordinated hobeys
  | cleanup i =>
    rw [Connector.after, run, Effect.map_snd, (Connector.cleanup_ends i c).core]
    exact .cleaned rfl
  | destroy i =>
    rw [Connector.after, run, Effect.map_snd]
    exact .asked _ ⟨rfl, rfl⟩

/-- Connections are made, and none is given up. -/
theorem Does.size_le (hdoes : Does k p k') : k.size ≤ k'.size := by
  cases hdoes with
  | created strategy derives hplain hclient =>
    rw [Core.size_enlist]
    exact Nat.le_succ _
  | kept hplain hparticipant hnumbers => exact Nat.le_of_eq Core.size_update.symm
  | wrote => exact Nat.le_of_eq Core.size_perform.symm
  | coordinated hobeys => exact Nat.le_of_eq Core.size_enact.symm
  | cleaned hcleaned => exact Nat.le_of_eq Core.size_clean.symm
  | _ => exact Nat.le_refl _

/-- A write that is accepted. -/
def Accepted (k : Core S) (i : Nat) (w : Write) : Prop :=
  (Backend.act k.stores (k.connection i).client (.write w)).result = .ok ()

/-- A piece that neither cleans a connection nor adds to its journal. -/
structure Leaves (k : Core S) (p : Piece) (k' : Core S) (i : Nat) : Prop where
  notCleaned : p.cleaned? ≠ some i
  notAccepted : ∀ w, p = .write i w → ¬ Accepted k i w
  journal : k'.journal i = k.journal i
  numbersOn : (k.connection i).NumbersOn (k'.connection i)

theorem IsPlain.leaves (hplain : p.IsPlain) (hjournal : k'.journal i = k.journal i)
    (hnumbers : (k.connection i).NumbersOn (k'.connection i)) : Leaves k p k' i where
  notCleaned := by simp [hplain.2]
  notAccepted := by
    rintro w rfl
    exact absurd hplain.1 (by simp [isWrite])
  journal := hjournal
  numbersOn := hnumbers

theorem IsPlain.leaves_of_eq (hplain : p.IsPlain) (hsame : k'.connection i = k.connection i) :
    Leaves k p k' i :=
  hplain.leaves (congrArg Connection.journal hsame) (hsame ▸ .refl _)

/-- What a piece does to a connection: it cleans it, or adds an accepted write to its journal, or
leaves its journal as it is. -/
theorem Does.connection (hdoes : Does k p k') (hi : i < k.size) :
    (p.cleaned? = some i ∧ k'.connection i = (k.connection i).reset) ∨
    (∃ w, p = .write i w ∧ Accepted k i w ∧ k'.connection i = (k.connection i).append w) ∨
    Leaves k p k' i := by
  cases hdoes with
  | createdNone hplain => exact Or.inr (Or.inr (hplain.leaves_of_eq rfl))
  | created strategy derives hplain hclient =>
    refine Or.inr (Or.inr (hplain.leaves_of_eq ?_))
    exact Core.connection_enlist_of_lt (c := k.create) hi
  | @kept _ j f hplain hparticipant hnumbers =>
    right; right
    refine hplain.leaves ?_ ?_
    · exact Core.connection_update_keeps Connection.journal
        fun x => congrArg Participant.journal (hparticipant x)
    · by_cases hij : i = j
      · subst hij
        rw [Core.connection_update_self hi]
        exact hnumbers _
      · rw [Core.connection_update_ne hij]
        exact .refl _
  | locked locks hplain => exact Or.inr (Or.inr (hplain.leaves_of_eq rfl))
  | asked stores hplain => exact Or.inr (Or.inr (hplain.leaves_of_eq rfl))
  | @wrote j w =>
    by_cases hij : i = j
    · subst hij
      -- a write that is refused leaves the connection alone, and is none that was accepted
      rcases Core.connection_perform_self (c := k) (w := w) hi with ⟨hsame, hok⟩ | ⟨hsame, f, hf⟩
      · exact Or.inr (Or.inl ⟨w, rfl, hok, hsame⟩)
      · refine Or.inr (Or.inr ⟨by simp [cleaned?], ?_, congrArg Connection.journal hsame, ?_⟩)
        · rintro v ⟨⟩ hok
          rw [Accepted, hf] at hok
          contradiction
        · rw [hsame]
          exact .refl _
    · -- the write is that of another connection
      have hsame := Core.connection_perform_ne (c := k) (w := w) hij
      refine Or.inr (Or.inr ⟨by simp [cleaned?], ?_, congrArg Connection.journal hsame, ?_⟩)
      · rintro v ⟨⟩
        exact absurd rfl hij
      · rw [hsame]
        exact .refl _
  | @coordinated j command q t answer hobeys =>
    right; right
    have hplain : (Piece.coordinate j command).IsPlain := ⟨rfl, rfl⟩
    by_cases hij : i = j
    · subst hij
      refine hplain.leaves ?_ ?_
      · rw [Core.journal, Core.connection_enact_self hi]
        exact hobeys.keeps.2.2
      · rw [Core.connection_enact_self hi]
        exact ⟨Nat.le_refl _, fun _ _ h => h⟩
    · exact hplain.leaves_of_eq (Core.connection_enact_ne hij)
  | @cleaned _ j hcleaned =>
    by_cases hij : i = j
    · subst hij
      exact Or.inl ⟨hcleaned, Core.connection_clean_self hi⟩
    · have hsame := Core.connection_clean_ne (c := k) hij
      refine Or.inr (Or.inr ⟨?_, ?_, congrArg Connection.journal hsame, ?_⟩)
      · rw [hcleaned]
        exact fun h => hij (Option.some.inj h).symm
      · rintro w rfl
        contradiction
      · rw [hsame]
        exact .refl _

theorem Does.numbersOn (hdoes : Does k p k') (hi : i < k.size) :
    (k.connection i).NumbersOn (k'.connection i) := by
  rcases hdoes.connection hi with ⟨-, hsame⟩ | ⟨w, -, -, hsame⟩ | hleaves
  · rw [hsame]
    exact Connection.numbersOn_reset _
  · rw [hsame]
    exact ⟨Nat.le_refl _, fun _ _ h => h⟩
  · exact hleaves.numbersOn

/-- A connection that does not exist yet has neither writes nor a valid token, nor has a new one. -/
theorem Does.of_ge (hdoes : Does k p k') (hi : k.size ≤ i) :
    k'.journal i = Journal.empty ∧ (k'.connection i).valid = none := by
  have hnone : k'.size ≤ i → k'.journal i = Journal.empty ∧ (k'.connection i).valid = none := by
    intro hge
    refine ⟨Core.journal_of_ge hge, ?_⟩
    rw [Core.connection_of_ge hge]
    rfl
  cases hdoes with
  | created strategy derives hplain hclient =>
    by_cases hself : i = k.create.size
    · rw [hself, Core.journal, Core.connection_enlist_self]
      exact ⟨rfl, rfl⟩
    · have hsize : k.create.size ≤ i := hi
      exact hnone (by rw [Core.size_enlist]; omega)
  | kept hplain hparticipant hnumbers =>
    exact hnone (Nat.le_trans (Nat.le_of_eq Core.size_update) hi)
  | wrote => exact hnone (Nat.le_trans (Nat.le_of_eq Core.size_perform) hi)
  | coordinated hobeys => exact hnone (Nat.le_trans (Nat.le_of_eq Core.size_enact) hi)
  | cleaned hcleaned => exact hnone (Nat.le_trans (Nat.le_of_eq Core.size_clean) hi)
  | _ => exact hnone hi

end Piece

namespace Connector

variable {S : Type} [Backend S] {c : Connector S} {i : Nat}

theorem numbersOn_follow (hi : i < c.connections.length) (ps : List Piece) :
    (c.connection i).NumbersOn ((c.follow ps).connection i) := by
  induction ps generalizing c with
  | nil => exact .refl _
  | cons p rest ih =>
    have hdoes := Piece.does_after p c
    exact (hdoes.numbersOn hi).trans (ih (Nat.lt_of_lt_of_le hi hdoes.size_le))

end Connector

namespace Piece

/-! ## Pieces on connectors that mirror each other -/

section

open Effect Connector

variable {S : Type} [Backend S] {R : Outside S → Outside S → Prop} {π : Holder → Holder}
  {ρ : ClientId → ClientId} {past : List Notice} {enough : Nat}

/-- The piece where holders go by other names.  Only a call that waits is named by its holder. -/
def rename (π : Holder → Holder) : Piece → Piece
  | expire call => expire (call.rename π)
  | p => p

/-- A piece returns the same on connectors that mirror each other, and they mirror each other
again. -/
theorem agree_run (hmirrors : Mirrors R ρ) (hπ : Function.Injective π) (p : Piece)
    (haudit : p.isWrite = true → ∀ {o o' : Outside S} (message : String), R o o' →
      R (o.note .info Record.audit message) (o'.note .info Record.audit message))
    (hnames : ∀ i, p.actor? = some i ∨ p.cleaned? = some i → i < enough) :
    Agree (Mirror R π ρ past enough) Eq (p.run : Run S Outcome) (p.rename π).run := by
  have hactor : ∀ i, p.actor? = some i → i < enough := fun i hi => hnames i (Or.inl hi)
  have hdone : ∀ {α : Type} {r q : Run S α} (f : α → Outcome),
      Agree (Mirror R π ρ past enough) Eq r q →
        Agree (Mirror R π ρ past enough) Eq (f <$> r) (f <$> q) :=
    fun f hr => agree_map hr fun _ _ => congrArg f
  cases p with
  | connect => exact hdone _ (agree_connect hmirrors)
  | connectWith strategy => exact hdone _ (agree_connectWith hmirrors strategy)
  | getHandle i => exact hdone _ (agree_getHandle hmirrors (hactor i rfl))
  | invalidate h => exact hdone _ (agree_invalidate h)
  | listen i l => exact hdone _ (agree_addListener i l)
  | unlisten i l => exact hdone _ (agree_removeListener i l)
  | ask i mode => exact hdone _ (agree_ask hmirrors hπ (hactor i rfl) mode)
  | expire call => exact hdone _ (agree_expire hmirrors hπ call)
  | look ticket =>
    refine agree_get.bind fun c d hc => ?_
    rw [agree_outcome ticket hc]
    cases c.outcome ticket with
    | ok _ => exact agree_pure rfl
    | error f => exact agree_throw _
  | write i w => exact hdone _ (agree_perform hmirrors (haudit rfl) (hactor i rfl) w)
  | select i text => exact hdone _ (agree_query hmirrors (hactor i rfl) text)
  | unlockRead i => exact hdone _ (agree_unlockRead hπ (hactor i rfl))
  | derive i context writes =>
    exact hdone _ (agree_derive hmirrors (hactor i rfl) context writes)
  | report i level before after =>
    refine (agree_connectionAt (hactor i rfl)).bind fun _ _ _ => ?_
    refine (agree_note hmirrors level _ _ _ ?_).next fun _ => agree_pure rfl
    exact fun h => absurd h.2 (by decide)
  | tell i kind error l =>
    refine (agree_connectionAt (hactor i rfl)).bind fun x y hxy => ?_
    rw [hxy]
    refine (agree_tell hmirrors hπ kind x.holder error ?_).next fun _ => agree_pure rfl
    exact fun other hother => hnames other (Or.inr hother)
  | coordinate i command =>
    intro c d hc
    obtain ⟨hanswer, hmirror⟩ := mirror_coordinate hmirrors (hactor i rfl) command hc
    exact .returns ⟨congrArg Outcome.answered hanswer, hmirror⟩
  | cleanup i => exact hdone _ (agree_cleanup hmirrors hπ (hactor i rfl))
  | destroy i => exact hdone _ (agree_destroy hmirrors (hactor i rfl))

end

end Piece

namespace Connector

open Effect

variable {S : Type} [Backend S] {R : Outside S → Outside S → Prop} {π : Holder → Holder}
  {ρ : ClientId → ClientId} {past : List Notice} {enough : Nat} {c d : Connector S}

/-- Pieces one after another return the same on connectors that mirror each other, and leave
connectors that mirror each other. -/
theorem Mirror.follow (hc : Mirror R π ρ past enough c d) (hmirrors : Mirrors R ρ)
    (hπ : Function.Injective π) (haudit : ∀ {o o' : Outside S} (message : String), R o o' →
      R (o.note .info Record.audit message) (o'.note .info Record.audit message))
    {ps : List Piece} (hps : c.Allows ps) :
    d.results (ps.map (Piece.rename π)) = c.results ps ∧
      Mirror R π ρ past (c.follow ps).connections.length (c.follow ps)
        (d.follow (ps.map (Piece.rename π))) := by
  induction ps generalizing c d enough with
  | nil => exact ⟨rfl, { hc with size := Nat.le_refl _ }⟩
  | cons p rest ih =>
    obtain ⟨hp, hrest⟩ := hps
    -- a piece may name connections that were made by the pieces before it
    have hfull : Mirror R π ρ past c.connections.length c d := { hc with size := Nat.le_refl _ }
    have hends := Piece.agree_run hmirrors hπ p (fun _ {_ _} => haudit) hp c d hfull
    have hresult := hends.result_eq fun _ _ _ _ h => h.1
    obtain ⟨hresults, hfollow⟩ := ih hends.states hrest
    exact ⟨congrArg₂ List.cons hresult.symm hresults, hfollow⟩

end Connector

/-! ## Schedules -/

namespace Schedule

open Connector

variable {S : Type} [Backend S] {s t : Schedule S} {m : Move}

omit [Backend S] in
theorem connector_turn (s : Schedule S) (i : Nat) (r : Connector.Run S Task) :
    (s.turn i r).connector = (r s.connector).2 := by
  unfold turn
  rcases r s.connector with ⟨e | task, c⟩ <;> rfl

/-- A step of a schedule consists of pieces. -/
theorem Step.pieces (hstep : Step s m t) (hs : s.core.Orderly s.tasks) :
    ∃ ps, s.connector.Allows ps ∧ s.connector.follow ps = t.connector := by
  have hone : ∀ p : Piece, p.Fits s.connector → s.connector.after p = t.connector →
      ∃ ps, s.connector.Allows ps ∧ s.connector.follow ps = t.connector :=
    fun p hp hafter => ⟨[p], ⟨hp, trivial⟩, hafter⟩
  have hbusy : ∀ {i : Nat}, s.tasks i ≠ .idle → i < s.connector.connections.length :=
    fun htask => hs.lt_of_task htask
  cases hstep with
  | connect =>
    exact hone .connect (Piece.fits_of_none rfl rfl) (Effect.map_snd _ _ _)
  | connectWith strategy =>
    exact hone (.connectWith strategy) (Piece.fits_of_none rfl rfl) (Effect.map_snd _ _ _)
  | @getHandle i hfree =>
    exact hone (.getHandle i) (Piece.fits_of_lt hfree.1 rfl rfl) (Effect.map_snd _ _ _)
  | invalidate h =>
    by_cases hi : h.connection < s.connector.connections.length
    · exact hone (.invalidate h) (Piece.fits_of_lt hi rfl rfl) rfl
    -- there is nothing that could be invalidated
    · refine ⟨[], trivial, ?_⟩
      have hsame : s.connector.connections.modify h.connection (·.invalidate h.token) =
          s.connector.connections := List.modify_eq_self (Nat.le_of_not_lt hi)
      change s.connector = { s.connector with
        connections := s.connector.connections.modify h.connection (·.invalidate h.token) }
      rw [hsame]
  | @listen i l hfree => exact hone (.listen i l) (Piece.fits_of_lt hfree.1 rfl rfl) rfl
  | @unlisten i l hfree => exact hone (.unlisten i l) (Piece.fits_of_lt hfree.1 rfl rfl) rfl
  | @beginAccess i a hfree =>
    refine hone (.ask i a.mode) (Piece.fits_of_lt hfree.1 rfl rfl) ?_
    rw [connector_turn, Connector.beginAccess, Effect.bind_pure_snd]
    exact Effect.map_snd Outcome.asked _ _
  | @beginRelease i hfree =>
    have hreport : (Piece.report i .debug "releasing " "").Fits s.connector :=
      Piece.fits_of_lt hfree.1 rfl rfl
    have hnoted : note .debug Record.connections
        ("releasing " ++ (s.connector.connection i).holder.text) s.connector =
        (.ok (), s.connector.after (.report i .debug "releasing " "")) := by
      rw [after_report, String.append_empty]
      rfl
    rw [connector_turn, Connector.beginRelease, Effect.bind_apply, connectionAt_apply]
    dsimp only
    rw [Effect.bind_apply, hnoted]
    dsimp only
    cases (s.connector.connection i).derivedContext? with
    | none => exact ⟨[_], ⟨hreport, trivial⟩, rfl⟩
    | some context =>
      have hask : (Piece.ask i .exclusive).Fits
          (s.connector.after (.report i .debug "releasing " "")) :=
        Piece.fits_of_lt hfree.1 rfl rfl
      refine ⟨[_, .ask i .exclusive], ⟨hreport, hask, trivial⟩, ?_⟩
      dsimp only
      rw [Effect.bind_pure_snd]
      exact Effect.map_snd Outcome.asked _ _
  | @expire call hlimit hcall =>
    exact hone (.expire call) (Piece.fits_of_none rfl rfl) (Effect.map_snd _ _ _)
  | @proceed i ticket work htask hreturned =>
    refine ⟨[], trivial, ?_⟩
    rw [connector_turn, Connector.proceed, Effect.bind_apply, Effect.get_apply]
    dsimp only
    cases s.connector.outcome ticket <;> rfl
  | @carryOut i work htask =>
    have hi := hbusy (i := i) (by simp [htask])
    rw [connector_turn] at hone ⊢
    cases work with
    | write w =>
      refine hone (.write i w) (Piece.fits_of_lt hi rfl rfl) ?_
      rw [Connector.after, Piece.run, Effect.map_snd, Connector.carryOut, Effect.bind_pure_snd,
        observe_snd]
    | select text =>
      refine hone (.select i text) (Piece.fits_of_lt hi rfl rfl) ?_
      rw [Connector.carryOut, Effect.bind_pure_snd]
      exact Effect.map_snd Outcome.selected _ _
    | derive context writes =>
      refine hone (.derive i context writes) (Piece.fits_of_lt hi rfl rfl) ?_
      rw [Connector.after, Piece.run, Effect.map_snd, Connector.carryOut, Effect.bind_pure_snd,
        observe_snd]
  | @endQuery i result htask =>
    exact hone (.unlockRead i) (Piece.fits_of_lt (hbusy (by simp [htask])) rfl rfl) rfl
  | @endRelease i derived htask =>
    have hi := hbusy (i := i) (by simp [htask])
    cases derived with
    | ok _ => exact ⟨[], trivial, rfl⟩
    | error f =>
      refine hone (.report i .error "cannot derive transformations on release of "
        (": " ++ f.message)) (Piece.fits_of_lt hi rfl rfl) ?_
      rw [after_report, ← String.append_assoc]
      rfl
  | @endWithError i f hfree =>
    refine hone (.report i .debug "releasing " (" with error: " ++ f.message))
      (Piece.fits_of_lt hfree.1 rfl rfl) ?_
    rw [after_report, ← String.append_assoc]
    rfl
  | @tell i kind error l rest htask htell =>
    have hi := hbusy (i := i) (by simp [htask])
    refine hone (.tell i kind error l) ?_ ?_
    · rintro j (hj | hj)
      · obtain rfl := Option.some.inj hj
        exact hi
      · rcases htell j hj with rfl | hfree
        · exact hi
        · exact hfree.1
    · rw [connector_turn, Connector.after, Piece.run, Connector.tellNext, Effect.bind_apply,
        Effect.bind_apply, connectionAt_apply]
      dsimp only
      rw [Effect.bind_pure_snd, Effect.bind_pure_snd]
  | @coordinate i command hi => exact hone (.coordinate i command) (Piece.fits_of_lt hi rfl rfl) rfl
  | @cleanup i hfree =>
    refine hone (.cleanup i) ?_ (Effect.map_snd _ _ _)
    rintro j (hj | hj) <;> obtain rfl := Option.some.inj hj <;> exact hfree.1
  | @destroy i hfree =>
    exact hone (.destroy i) (Piece.fits_of_lt hfree.1 rfl rfl) (Effect.map_snd _ _ _)

/-- So does a run. -/
theorem Leads.pieces {allowed : Schedule S → Move → Prop} (hrun : Leads allowed s t)
    (hs : s.Reachable) : ∃ ps, s.connector.Allows ps ∧ s.connector.follow ps = t.connector := by
  induction hrun with
  | refl => exact ⟨[], trivial, rfl⟩
  | @tail t u m hrun hallowed hstep ih =>
    obtain ⟨s₀, hnew, hbefore⟩ := hs
    have ht : t.Reachable := ⟨s₀, hnew, hbefore.trans (hrun.mono fun _ _ _ => trivial)⟩
    obtain ⟨ps, hps, hfollow⟩ := ih
    obtain ⟨qs, hqs, hlast⟩ := hstep.pieces ht.orderly
    refine ⟨ps ++ qs, Connector.allows_append.mpr ⟨hps, ?_⟩, ?_⟩
    · rw [hfollow]
      exact hqs
    · rw [follow_append, hfollow, hlast]

end Schedule

end GraphCommit
