import GraphCommit.Proofs.Isolation
import GraphCommit.Proofs.Store.Contents

/-!
# A branch takes effect as a whole

What a connection intends (`Core.intent`) is what its commit would make of the contents: the
committed quads with all that its client has staged.  Every accepted write has its effect on the
intent at once, and so has every write that the derivation on release puts through the client.  A
commit turns the intent into what is committed and leaves the intent as it is, so that it may be
repeated.  One whose transaction fails is not accepted and changes nothing.

Nobody else commits while a connection is busy.  The intent is therefore always made of what was
committed at the first accepted write by all the accepted writes, in order (`Leads.intent`).  As
long as no commit is accepted, what was committed at the first write still is
(`Leads.uncommitted`).
-/

namespace GraphCommit

open Recorded

/-- The contents that a commit of a connection would lead to. -/
def Core.intent (k : Core (Recorded Depot)) (i : Nat) : Set Quad :=
  (k.depot.committed.applyAll (k.staged i)).contents

theorem Core.intent_of_staged {k : Core (Recorded Depot)} {i : Nat} (hstaged : k.staged i = []) :
    k.intent i = k.depot.contents := by
  rw [intent, hstaged]
  rfl

/-- The depot that accepted the first of some writes, or the present one if there are none. -/
def Depot.first (accepted : List (Depot × Write)) (present : Depot) : Depot :=
  (accepted.head?.map Prod.fst).getD present

namespace Schedule

variable {s t t' : Schedule (Recorded Depot)} {m : Move} {i : Nat}

section

variable [Engine]

/-- Whether a move is a commit that is answered without a fault. -/
def Commits (s : Schedule (Recorded Depot)) (i : Nat) (m : Move) : Prop :=
  ∃ x onePhase, m = .coordinate i (.commit x onePhase) ∧
    s.answer i (.commit x onePhase) = .ok none

omit [Engine] in
theorem staged_of_not_busy (hi : i < s.size) (hidle : ¬ s.IsBusy i) :
    s.core.staged i = [] := by
  by_contra hstaged
  exact hidle ⟨hi, Or.inr hstaged⟩

/-- While a connection is busy, committed data change by its own commits only. -/
theorem IsBusy.committed (hbusy : s.IsBusy i) (hs : s.Serves) (hstep : Step s m t)
    (hcommits : ¬ s.Commits i m) : t.core.depot.committed = s.core.depot.committed := by
  rcases hstep.commits hs with hsame | ⟨j, x, onePhase, hj, hm, hanswer, -⟩
  · exact hsame
  · obtain rfl := hj.eq hbusy hs
    exact absurd ⟨x, onePhase, hm, hanswer⟩ hcommits

/-! ## One step -/

/-- Changes that are staged behind the others have their effect on the intent. -/
theorem contents_staged_append {asked : List (Entry Depot)} (htrue : ∀ e ∈ asked, e.IsTrue) :
    (s.core.depot.committed.applyAll
        (s.core.staged i ++ stagedOf (s.core.client i) asked)).contents =
      written (writesOf (s.core.client i) asked) (s.core.intent i) := by
  rw [Dataset.applyAll_append]
  exact contents_stagedOf htrue _

section

variable {asked : List (Entry Depot)} {data : Dataset} {staged : List Staged}

/-- A business with accepted writes commits nothing. -/
theorem Business.committed_eq (hbusiness : s.Business i m asked data staged)
    (hwrites : writesOf (s.core.client i) asked ≠ []) : data = s.core.depot.committed := by
  cases hbusiness with
  | committed hanswer hnone haccess => exact absurd hnone hwrites
  | _ => rfl

/-- The first write of a connection that is not busy is put to the present depot. -/
theorem Business.first_eq (hbusiness : s.Business i m asked data staged) (hs : s.Serves)
    (hi : i < s.size) (hidle : ¬ s.IsBusy i) (hwrites : writesOf (s.core.client i) asked ≠ [])
    (present : Depot) :
    Depot.first (writesOf (s.core.client i) asked) present = s.core.depot := by
  cases hbusiness with
  | wrote htask hanswer => simp [Depot.first]
  | refused htask hanswer => simp at hwrites
  | queried htask => exact absurd rfl hwrites
  | derived htask =>
    -- a derivation begins with a journal that is not empty
    obtain ⟨rfl, hne⟩ := hs.orderly.source i _ (by rw [htask]; rfl)
    exact absurd ⟨hi, Or.inl hne⟩ hidle
  | committed hanswer hnone haccess => exact absurd hnone hwrites
  | notCommitted hanswer haccess => exact absurd (writesOf_of_no_access haccess) hwrites
  | discarded hdiscards ha =>
    refine absurd (writesOf_of_no_access fun e he => ?_) hwrites
    rw [List.mem_singleton.mp he]
    exact Question.isAccess_act ha

/-- What the accepted writes of a business do to the intent. -/
theorem Business.intent (hbusiness : s.Business i m asked data staged)
    (htrue : ∀ e ∈ asked, e.IsTrue) (hdiscards : ¬ s.Discards i m) :
    (data.applyAll staged).contents =
      written (writesOf (s.core.client i) asked) (s.core.intent i) := by
  cases hbusiness with
  | @wrote w htask hanswer =>
    have hboth := contents_staged_append (s := s) (i := i) htrue
    rw [stagedOf_accepted] at hboth
    exact hboth
  | refused htask hanswer =>
    rw [writesOf_refused]
    rfl
  | queried htask => rfl
  | derived htask => exact contents_staged_append htrue
  | committed hanswer hnone haccess =>
    -- what was intended is committed now
    rw [hnone]
    rfl
  | notCommitted hanswer haccess =>
    rw [writesOf_of_no_access haccess]
    rfl
  | discarded hdropped ha => exact absurd hdropped hdiscards

end

/-- Beside a busy connection nothing is committed by a step that passes it by. -/
theorem Passes.committed_eq (hpasses : s.Passes i m t.core.stores) (hs : s.Serves)
    (hbusy : s.IsBusy i) : t.core.depot.committed = s.core.depot.committed := by
  rcases hpasses.committed with hsame | ⟨j, x, onePhase, hj, hij, -, hdata⟩
  · exact hsame
  · -- the other connection has an empty journal, so what it commits is nothing
    rw [hs.kept.unstaged j hj (hbusy.journal_eq_nil hs hj hij)] at hdata
    exact hdata

/-- What the accepted writes among some questions of a connection do: nothing is committed in the
same step, the first write of all is put to the present depot, and they have their effect on the
intent, unless the step drops what is staged. -/
structure Writes (s : Schedule (Recorded Depot)) (i : Nat) (m : Move) (asked : List (Entry Depot))
    (t : Schedule (Recorded Depot)) : Prop where
  history : t.core.stores.history = s.core.stores.history ++ asked
  committed : writesOf (s.core.client i) asked ≠ [] →
    t.core.depot.committed = s.core.depot.committed
  begins : ¬ s.IsBusy i → writesOf (s.core.client i) asked ≠ [] →
    ∀ present, Depot.first (writesOf (s.core.client i) asked) present = s.core.depot
  intent : ¬ s.Discards i m → s.IsBusy i ∨ writesOf (s.core.client i) asked ≠ [] →
    t.core.intent i = written (writesOf (s.core.client i) asked) (s.core.intent i)

theorem Step.writes (hstep : Step s m t) (hs : s.Serves) (hi : i < s.size) :
    ∃ asked, Writes s i m asked t := by
  have hclient := hstep.client hi
  rcases (hstep.asked hs.kept hs.orderly).cases_on hs.kept hi with
    hpasses | ⟨asked, hhistory, htrue, hbusiness⟩
  · obtain ⟨asked, hhistory, hothers⟩ := hpasses.history
    have hnone := writesOf_of_others hothers
    refine ⟨asked, hhistory, fun hne => absurd hnone hne, fun _ hne => absurd hnone hne, ?_⟩
    intro hdiscards hwriting
    have hbusy : s.IsBusy i := hwriting.resolve_right fun hne => hne hnone
    have hstaged : t.core.staged i = s.core.staged i := by
      rw [Core.staged, hclient]
      exact hpasses.staged
    rw [hnone, Core.intent, hpasses.committed_eq hs hbusy, hstaged]
    rfl
  · refine ⟨asked, hhistory, hbusiness.committed_eq, hbusiness.first_eq hs hi, ?_⟩
    intro hdiscards _
    rw [Core.intent, Core.staged, hclient]
    exact hbusiness.intent htrue hdiscards

/-! ## Runs -/

/-- A connection that is not cleaned during a run, and the accepted writes of its client before the
last step and in it. -/
theorem Leads.writes_tail {since : List (Entry Depot)} {u : Schedule (Recorded Depot)}
    (hrun : Leads (fun u m => ¬ u.Cleans i m) s t) (hs : s.Serves) (hi : i < s.size)
    (hidle : ¬ s.IsBusy i) (hstep : Step t m u)
    (hsince : u.core.stores.history = s.core.stores.history ++ since) :
    ∃ before asked, since = before ++ asked ∧
      t.core.stores.history = s.core.stores.history ++ before ∧
      (t.IsBusy i ↔ writesOf (t.core.client i) before ≠ []) ∧ Writes t i m asked u := by
  obtain ⟨before, hbefore, hbusy⟩ := hrun.busy_iff hs hi hidle
  obtain ⟨hlt, hclient⟩ := hrun.client hi
  obtain ⟨asked, hasked⟩ := hstep.writes (hs.leads hrun) hlt
  refine ⟨before, asked, ?_, hbefore, hclient ▸ hbusy, hasked⟩
  have hboth := hsince.symm.trans hasked.history
  rw [hbefore, List.append_assoc] at hboth
  exact List.append_cancel_left hboth

omit [Engine] in
/-- The first of some writes stays the first. -/
theorem first_append {before : List (Depot × Write)} (hbefore : before ≠ [])
    (later : List (Depot × Write)) (present present' : Depot) :
    Depot.first (before ++ later) present = Depot.first before present' := by
  obtain ⟨first, rest, rfl⟩ := List.exists_cons_of_ne_nil hbefore
  rfl

/-- A connection intends what its accepted writes make of what was committed at the first one. -/
theorem Leads.intent (hrun : Leads (fun u m => ¬ u.Discards i m) s t) (hs : s.Serves)
    (hi : i < s.size) (hidle : ¬ s.IsBusy i) {since : List (Entry Depot)}
    (hsince : t.core.stores.history = s.core.stores.history ++ since) :
    t.core.intent i = written (writesOf (s.core.client i) since)
      (Depot.first (writesOf (s.core.client i) since) t.core.depot).contents := by
  have hcleans : ∀ u m, ¬ Discards u i m → ¬ u.Cleans i m :=
    fun u m hdiscards hcleans => hdiscards (Or.inl hcleans)
  induction hrun generalizing since with
  | refl =>
    obtain rfl : since = [] := List.self_eq_append_right.mp hsince
    exact Core.intent_of_staged (staged_of_not_busy hi hidle)
  | @tail t u m hrun hdiscards hstep ih =>
    obtain ⟨before, asked, rfl, hbefore, hbusy, hwrites⟩ :=
      (hrun.mono hcleans).writes_tail hs hi hidle hstep hsince
    have hclient := (hrun.client hi).2
    have hintent := ih hbefore
    rw [← hclient] at hintent ⊢
    rw [writesOf_append]
    by_cases hnone : writesOf (t.core.client i) before = []
    · have hquiet : ¬ t.IsBusy i := fun h => hbusy.mp h hnone
      rw [hnone, List.nil_append]
      by_cases hasked : writesOf (t.core.client i) asked = []
      · -- there are still no writes, so nothing is staged
        have hrun' := (hrun.tail hdiscards hstep).mono hcleans
        obtain ⟨since, hsince', hbusy'⟩ := hrun'.busy_iff hs hi hidle
        obtain rfl : since = before ++ asked :=
          List.append_cancel_left (hsince'.symm.trans hsince)
        rw [hasked]
        refine Core.intent_of_staged (staged_of_not_busy (hrun'.client hi).1 ?_)
        rw [hbusy', ← hclient, writesOf_append, hnone, hasked]
        simp
      · rw [hwrites.begins hquiet hasked, hwrites.intent hdiscards (Or.inr hasked), hintent, hnone]
        rfl
    · rw [hwrites.intent hdiscards (Or.inl (hbusy.mpr hnone)), hintent, written_append,
        first_append hnone _ u.core.depot t.core.depot]

/-- What was committed at the first accepted write still is, unless a commit was accepted. -/
theorem Leads.uncommitted (hrun : Leads (fun u m => ¬ u.Cleans i m ∧ ¬ u.Commits i m) s t)
    (hs : s.Serves) (hi : i < s.size) (hidle : ¬ s.IsBusy i) {since : List (Entry Depot)}
    (hsince : t.core.stores.history = s.core.stores.history ++ since) :
    t.core.depot.committed =
      (Depot.first (writesOf (s.core.client i) since) t.core.depot).committed := by
  induction hrun generalizing since with
  | refl =>
    obtain rfl : since = [] := List.self_eq_append_right.mp hsince
    rfl
  | @tail t u m hrun hallowed hstep ih =>
    obtain ⟨before, asked, rfl, hbefore, hbusy, hwrites⟩ :=
      (hrun.mono fun _ _ h => h.1).writes_tail hs hi hidle hstep hsince
    have hcommitted := ih hbefore
    rw [← (hrun.client hi).2] at hcommitted ⊢
    rw [writesOf_append]
    by_cases hnone : writesOf (t.core.client i) before = []
    · rw [hnone, List.nil_append]
      by_cases hasked : writesOf (t.core.client i) asked = []
      · rw [hasked]
        rfl
      · rw [hwrites.begins (fun h => hbusy.mp h hnone) hasked, hwrites.committed hasked]
    · rw [first_append hnone _ u.core.depot t.core.depot, ← hcommitted]
      exact (hbusy.mpr hnone).committed (hs.leads hrun) hstep hallowed.2

/-! ## The whole statement -/

/-- A branch of a connection takes effect as a whole or not at all. -/
structure ActsAtomically (s : Schedule (Recorded Depot)) (i : Nat) : Prop where
  /-- After an accepted commit the contents are what all accepted writes, in order, make of the
  contents at the first of them. -/
  committed : ∀ t t' x onePhase, Leads (fun u m => ¬ u.Discards i m) s t →
    Step t (.coordinate i (.commit x onePhase)) t' → t.answer i (.commit x onePhase) = .ok none →
    ∃ since, t'.core.stores.history = s.core.stores.history ++ since ∧
      t'.core.depot.contents = written (writesOf (s.core.client i) since)
        (Depot.first (writesOf (s.core.client i) since) t.core.depot).contents
  /-- Between the first accepted write and the cleaning, data are committed in no other way. -/
  only : ∀ t t' m, Leads (fun u m => ¬ u.Cleans i m) s t → t.IsBusy i → Step t m t' →
    ¬ t.Commits i m → t'.core.depot.committed = t.core.depot.committed
  /-- If no commit was accepted, after the cleaning is committed what was committed at the first
  accepted write. -/
  dropped : ∀ t t' m, Leads (fun u m => ¬ u.Cleans i m ∧ ¬ u.Commits i m) s t → Step t m t' →
    t.Cleans i m → ∃ since, t.core.stores.history = s.core.stores.history ++ since ∧
      t'.core.depot.committed =
        (Depot.first (writesOf (s.core.client i) since) t.core.depot).committed

/-- Branches act atomically, from any time on when the connection is not busy. -/
theorem acts_atomically (hs : s.Serves) (hi : i < s.size) (hidle : ¬ s.IsBusy i) :
    s.ActsAtomically i where
  committed := by
    intro t t' x onePhase hrun hstep hanswer
    have hcleans : ∀ u m, ¬ Discards u i m → ¬ u.Cleans i m :=
      fun u m hdiscards hcleans => hdiscards (Or.inl hcleans)
    have hdiscards : ¬ t.Discards i (.coordinate i (.commit x onePhase)) := by
      rintro (hcleans | hdestroy | ⟨y, hrollback, -⟩)
      · exact hcleans
      · contradiction
      · cases hrollback
    have hrun' := hrun.tail hdiscards hstep
    obtain ⟨since, hsince, -⟩ := (hrun'.mono hcleans).busy_iff hs hi hidle
    refine ⟨since, hsince, ?_⟩
    by_cases hnone : writesOf (s.core.client i) since = []
    · -- nothing was staged, and so nothing is committed
      obtain ⟨before, asked, rfl, -, hbusy, -⟩ :=
        (hrun.mono hcleans).writes_tail hs hi hidle hstep hsince
      rw [hnone]
      rcases hstep.commits (hs.leads hrun) with hsame | ⟨j, y, twoPhase, hj, hm, -⟩
      · exact congrArg Dataset.contents hsame
      · cases hm
        rw [writesOf_append, ← (hrun.client hi).2] at hnone
        exact absurd (List.append_eq_nil_iff.mp hnone).1 (hbusy.mp hj)
    · have hstaged := hstep.staged_of_commit (hs.leads hrun).kept hanswer
      have hfirst := first_append hnone [] t'.core.depot t.core.depot
      rw [List.append_nil] at hfirst
      rw [← Core.intent_of_staged hstaged, hrun'.intent hs hi hidle hsince, hfirst]
  only := fun t t' m hrun hbusy hstep hcommits =>
    hbusy.committed (hs.leads hrun) hstep hcommits
  dropped := by
    intro t t' m hrun hstep hcleans
    obtain ⟨since, hsince, -⟩ := (hrun.mono fun _ _ h => h.1).busy_iff hs hi hidle
    have ht : t.Serves := hs.leads hrun
    refine ⟨since, hsince, ?_⟩
    rw [← hrun.uncommitted hs hi hidle hsince]
    rcases hstep.commits ht with hsame | ⟨j, x, onePhase, -, rfl, -⟩
    · exact hsame
    · exact hcleans.elim

end

section

attribute [local instance] Engine.small

/-- A branch adds a triple to a repository in memory. -/
theorem acts_atomically_adding :
    ∃ s t t' : Schedule (Recorded Depot), s.ActsAtomically 0 ∧
      Leads (fun u m => ¬ u.Discards 0 m) s t ∧
      Step t (.coordinate 0 (.commit ⟨1, [1], [1]⟩ true)) t' ∧
      t.answer 0 (.commit ⟨1, [1], [1]⟩ true) = .ok none ∧
      t'.core.depot.committed.quads = [Triple.quadIn ⟨"urn:s", "urn:p", "urn:o"⟩ "urn:g"] := by
  obtain ⟨s, t, t', hs, hsize, hjournal, hstaged, ht, hnext, hanswer, hquads⟩ : ∃ s t t',
      openStart.follow [.connect] = some s ∧
      s.size = 1 ∧ (s.journal 0).writes = [] ∧ s.core.staged 0 = [] ∧
      s.follow [.coordinate 0 (.start ⟨1, [1], [1]⟩ Flags.none),
        .beginAccess 0 (.write (.addTriple ⟨"urn:s", "urn:p", "urn:o"⟩ "urn:g")), .carryOut 0,
        .coordinate 0 (.finish ⟨1, [1], [1]⟩ Flags.success)] = some t ∧
      t.next (.coordinate 0 (.commit ⟨1, [1], [1]⟩ true)) = some t' ∧
      t.answer 0 (.commit ⟨1, [1], [1]⟩ true) = .ok none ∧
      t'.core.depot.committed.quads = [Triple.quadIn ⟨"urn:s", "urn:p", "urn:o"⟩ "urn:g"] :=
    ⟨_, _, _, rfl, rfl, rfl, rfl, rfl, rfl, rfl, rfl⟩
  have hserves : s.Serves := serves_openStart.leads (leads_of_follow (fun _ _ _ => trivial) hs)
  have hidle : ¬ s.IsBusy 0 := by
    rintro ⟨-, hwrites | hbusy⟩
    · exact hwrites hjournal
    · exact hbusy hstaged
  refine ⟨s, t, t', acts_atomically hserves (by omega) hidle, leads_of_follow ?_ ht,
    step_iff.mpr hnext, hanswer, hquads⟩
  intro m hm u
  simp only [List.mem_cons, List.not_mem_nil, or_false] at hm
  rcases hm with rfl | rfl | rfl | rfl <;> simp [Discards, Cleans]

end

end Schedule

end GraphCommit
