import GraphCommit.Proofs.Recorded
import GraphCommit.Scripted

/-!
# Scripted stores answer by their scripts

No call changes the answers that a script has prepared (`sameAnswers_after`).  So the working
repository of scripted stores answers each query in one and the same way, as long as the script
does not make it fail.
-/

namespace GraphCommit.Scripted

variable {s t : Script} {text : String}

/-- Scripts that have prepared the same answers. -/
def SameAnswers (s t : Script) : Prop := s.selects = t.selects ∧ s.asks = t.asks

theorem SameAnswers.trans {u : Script} (hfirst : SameAnswers s t) (hsecond : SameAnswers t u) :
    SameAnswers s u :=
  ⟨hfirst.1.trans hsecond.1, hfirst.2.trans hsecond.2⟩

theorem sameAnswers_enter (s : Script) (c : Call) : SameAnswers (s.enter c).2 s := by
  unfold Script.enter
  dsimp only
  split <;> exact ⟨rfl, rfl⟩

theorem sameAnswers_act (s : Script) (kind : Kind) (a : Action) :
    SameAnswers (s.act kind a).2 s := by
  have henter := sameAnswers_enter s (.act a)
  unfold Script.act
  split
  · exact ⟨rfl, rfl⟩
  · exact sameAnswers_enter s _
  · cases hentered : s.enter (.act (.write _)) with
    | mk result after =>
      rw [hentered] at henter
      cases result <;> exact henter
  · exact henter

theorem sameAnswers_select (s : Script) (text : String) : SameAnswers (s.select text).2 s := by
  have henter := sameAnswers_enter s (.select text)
  unfold Script.select
  cases hentered : s.enter (.select text) with
  | mk result after =>
    rw [hentered] at henter
    cases result <;> exact henter

theorem sameAnswers_ask (s : Script) (text : String) : SameAnswers (s.ask text).2 s := by
  have henter := sameAnswers_enter s (.ask text)
  unfold Script.ask
  cases hentered : s.enter (.ask text) with
  | mk result after =>
    rw [hentered] at henter
    cases result <;> exact henter

/-- What a script answers is what it has prepared. -/
theorem select_eq_ok {rows : List Row} (hrows : (s.select text).1 = .ok rows) :
    rows = (s.selects.lookup text).getD [] := by
  have henter := sameAnswers_enter s (.select text)
  unfold Script.select at hrows
  cases hentered : s.enter (.select text) with
  | mk result after =>
    rw [hentered] at henter hrows
    cases result with
    | error f => contradiction
    | ok _ =>
      rw [← Except.ok.inj hrows]
      exact congrArg (fun selects => (List.lookup text selects).getD []) henter.1

theorem ask_eq_ok {answer : Bool} (hanswer : (s.ask text).1 = .ok answer) :
    answer = (s.asks.lookup text).getD true := by
  have henter := sameAnswers_enter s (.ask text)
  unfold Script.ask at hanswer
  cases hentered : s.enter (.ask text) with
  | mk result after =>
    rw [hentered] at henter hanswer
    cases result with
    | error f => contradiction
    | ok _ =>
      rw [← Except.ok.inj hanswer]
      exact congrArg (fun asks => (List.lookup text asks).getD true) henter.2

/-! ## The working repository -/

theorem sameAnswers_onClient {α : Type} (s : Scripted) (k : ClientId)
    {f : Kind → Script → Except Fault α × Script}
    (hf : ∀ kind script, SameAnswers (f kind script).2 script) :
    SameAnswers (s.onClient k f).state.working s.working := by
  obtain ⟨number⟩ := k
  cases number with
  | zero => exact hf .onCommit s.working
  | succ n => exact ⟨rfl, rfl⟩

theorem sameAnswers_after (s : Scripted) (q : Question) :
    SameAnswers (q.after s).working s.working := by
  cases q with
  | act k a => exact sameAnswers_onClient s k fun kind script => sameAnswers_act script kind a
  | select k text => exact sameAnswers_onClient s k fun _ script => sameAnswers_select script text
  | ask k text => exact sameAnswers_onClient s k fun _ script => sameAnswers_ask script text
  | create =>
    change SameAnswers (Backend.create s).state.working s.working
    simp only [Backend.create]
    split <;> exact ⟨rfl, rfl⟩
  | openWorking => exact sameAnswers_enter s.working .open_
  | shutDownWorking => exact sameAnswers_enter s.working .shutDown

/-- The working repository is opened with the client that no client of the main repository is. -/
theorem ne_mainClient_of_openWorking (s : Scripted) (index : Nat) (working : ClientId)
    (hopen : (Backend.openWorking s).result = .ok working) : working ≠ mainClient index := by
  change (s.working.enter .open_).1.map (fun _ => workingClient) = .ok working at hopen
  cases hresult : (s.working.enter .open_).1 with
  | error f =>
    rw [hresult] at hopen
    contradiction
  | ok a =>
    rw [hresult] at hopen
    rw [← Except.ok.inj hopen]
    simp [workingClient, mainClient]

end GraphCommit.Scripted
