import GraphCommit.Proofs.Effect
import GraphCommit.Proofs.Recorded

/-!
# What is asked and what is told

From one moment to a later one, stores that remember their questions are asked some more, and the
log is given some more records.  Some of these are left by the stores, and which ones they are can
be read off the questions.  The others are told by whoever works with the stores (`Account`).  The
log does not tell the ones from the others, so an account says of them only that they are
interleaved (`Interleaves`).

Accounts of consecutive stretches of time are joined by joining their questions and what was told
(`Account.trans`).  So what an operation asks and tells is found by going through its parts.
-/

namespace GraphCommit

/-- A list is made of two others, each of which keeps its order. -/
inductive Interleaves {α : Type} : List α → List α → List α → Prop
  | nil : Interleaves [] [] []
  | left {a : α} {l m merged : List α} (hrest : Interleaves l m merged) :
      Interleaves (a :: l) m (a :: merged)
  | right {a : α} {l m merged : List α} (hrest : Interleaves l m merged) :
      Interleaves l (a :: m) (a :: merged)

namespace Interleaves

variable {α : Type} {l m merged l' m' merged' : List α}

theorem append (hfirst : Interleaves l m merged) (hsecond : Interleaves l' m' merged') :
    Interleaves (l ++ l') (m ++ m') (merged ++ merged') := by
  induction hfirst with
  | nil => exact hsecond
  | left _ ih => exact .left ih
  | right _ ih => exact .right ih

theorem left_only (l : List α) : Interleaves l [] l := by
  induction l with
  | nil => exact .nil
  | cons a rest ih => exact .left ih

theorem right_only (m : List α) : Interleaves [] m m := by
  induction m with
  | nil => exact .nil
  | cons a rest ih => exact .right ih

end Interleaves

theorem Log.addAll_append (log : Log) (rs ss : List Record) :
    log.addAll (rs ++ ss) = (log.addAll rs).addAll ss :=
  List.foldl_append

/-! ## Questions and their answers -/

/-- The fault with which an answer refuses a question. -/
def Response.fault? {S α : Type} (response : Response S α) : Option Fault :=
  match response.result with
  | .ok _ => none
  | .error f => some f

/-- The fault with which the stores refuse a question, if they do. -/
def Question.refusal? {S : Type} [Backend S] (s : S) : Question → Option Fault
  | act k a => (Backend.act s k a).fault?
  | select k text => (Backend.select s k text).fault?
  | ask k text => (Backend.ask s k text).fault?
  | create => (Backend.create s).fault?
  | openWorking => (Backend.openWorking s).fault?
  | shutDownWorking => (Backend.shutDownWorking s).fault?

section

variable {S : Type} [Backend S]

namespace Entry

/-- The records that the stores left for the log. -/
def records (e : Entry S) : List Record := e.question.records e.before

/-- The fault with which the question was refused, if it was. -/
def refusal? (e : Entry S) : Option Fault := e.question.refusal? e.before

end Entry

/-- Questions are put one after another, up to the first one that is refused. -/
inductive InTurn : List Question → List (Entry S) → Option Fault → Prop
  | done : InTurn [] [] none
  | refused {e : Entry S} {q : Question} {rest : List Question} {f : Fault}
      (hquestion : e.question = q) (hrefused : e.refusal? = some f) :
      InTurn (q :: rest) [e] (some f)
  | answered {e : Entry S} {q : Question} {rest : List Question} {later : List (Entry S)}
      {fault? : Option Fault} (hquestion : e.question = q) (hanswered : e.refusal? = none)
      (hrest : InTurn rest later fault?) : InTurn (q :: rest) (e :: later) fault?

namespace InTurn

theorem of_single {e : Entry S} {q : Question} {fault? : Option Fault} (hquestion : e.question = q)
    (hrefusal : e.refusal? = fault?) : InTurn [q] [e] fault? := by
  cases fault? with
  | none => exact .answered hquestion hrefusal .done
  | some f => exact .refused hquestion hrefusal

variable {questions : List Question} {asked : List (Entry S)} {fault? : Option Fault}

theorem isPrefix (hturns : InTurn questions asked fault?) :
    asked.map Entry.question <+: questions := by
  induction hturns with
  | done => exact List.nil_prefix
  | refused hquestion _ =>
    rw [List.map_singleton, hquestion]
    exact List.prefix_append [_] _
  | answered hquestion _ _ ih =>
    rw [List.map_cons, hquestion]
    exact List.cons_prefix_cons.mpr ⟨rfl, ih⟩

theorem single {q : Question} (hturns : InTurn [q] asked fault?) :
    ∃ e, asked = [e] ∧ e.question = q ∧ e.refusal? = fault? := by
  cases hturns with
  | refused hquestion hrefused => exact ⟨_, rfl, hquestion, hrefused⟩
  | answered hquestion hanswered hrest =>
    cases hrest with
    | done => exact ⟨_, rfl, hquestion, hanswered⟩

/-- The first question is asked in any case. -/
theorem exists_first {first : Question} {rest : List Question}
    (hturns : InTurn (first :: rest) asked fault?) : ∃ e ∈ asked, e.question = first := by
  cases hturns with
  | refused hquestion _ => exact ⟨_, List.mem_cons_self, hquestion⟩
  | answered hquestion _ _ => exact ⟨_, List.mem_cons_self, hquestion⟩

/-- Nothing is asked after a refusal. -/
theorem refused_last (hturns : InTurn questions asked fault?) {e : Entry S} {f : Fault}
    (he : e ∈ asked) (hrefused : e.refusal? = some f) :
    fault? = some f ∧ asked.getLast? = some e := by
  induction hturns with
  | done => contradiction
  | refused _ hfirst =>
    obtain rfl := List.mem_singleton.mp he
    rw [hfirst] at hrefused
    exact ⟨hrefused, rfl⟩
  | answered _ hanswered _ ih =>
    rcases List.mem_cons.mp he with rfl | hlater
    · rw [hanswered] at hrefused
      contradiction
    · obtain ⟨hfault, hlast⟩ := ih hlater
      refine ⟨hfault, ?_⟩
      rw [List.getLast?_cons, hlast]
      rfl

/-- Behind a refusal there is nothing. -/
theorem nothing_after (hturns : InTurn questions asked fault?) {before after : List (Entry S)}
    {e : Entry S} (hasked : asked = before ++ e :: after) (hrefused : e.refusal? ≠ none) :
    after = [] := by
  induction hturns generalizing before with
  | done => simp at hasked
  | refused _ _ =>
    cases before with
    | nil => exact (List.cons.inj hasked).2.symm
    | cons _ rest => simp at hasked
  | answered _ hanswered _ ih =>
    cases before with
    | nil =>
      obtain ⟨rfl, -⟩ := List.cons.inj hasked
      exact absurd hanswered hrefused
    | cons _ rest => exact ih (List.cons.inj hasked).2

theorem mem_questions (hturns : InTurn questions asked fault?) {e : Entry S} (he : e ∈ asked) :
    e.question ∈ questions :=
  hturns.isPrefix.subset (List.mem_map_of_mem he)

theorem refusal?_eq_none (hturns : InTurn questions asked none) {e : Entry S} (he : e ∈ asked) :
    e.refusal? = none := by
  cases hrefused : e.refusal? with
  | none => rfl
  | some f => simpa using (hturns.refused_last he hrefused).1

theorem append {more : List Question} {later : List (Entry S)}
    (hturns : InTurn questions asked none) (hmore : InTurn more later fault?) :
    InTurn (questions ++ more) (asked ++ later) fault? := by
  generalize hfault : (none : Option Fault) = first? at hturns
  induction hturns with
  | done => exact hmore
  | refused => contradiction
  | answered hquestion hanswered _ ih => exact .answered hquestion hanswered (ih hfault)

/-- What would come after a refusal does not matter. -/
theorem append_of_refused {f : Fault} (hturns : InTurn questions asked (some f))
    (more : List Question) : InTurn (questions ++ more) asked (some f) := by
  generalize hfault : some f = fault? at hturns ⊢
  induction hturns with
  | done => contradiction
  | refused hquestion hrefused => exact .refused hquestion hrefused
  | answered hquestion hanswered _ ih => exact .answered hquestion hanswered (ih hfault)

end InTurn

/-! ## Accounts -/

/-- Between two moments some questions were put, and some records were told besides those that the
stores left. -/
structure Account (o o' : Outside (Recorded S)) (asked : List (Entry S)) (said : List Record) :
    Prop where
  history : o'.stores.history = o.stores.history ++ asked
  answers : ∀ e ∈ asked, e.IsTrue
  log : ∃ heard, Interleaves (asked.flatMap Entry.records) said heard ∧
    o'.log = o.log.addAll heard

namespace Account

variable {o o' o'' : Outside (Recorded S)} {asked later : List (Entry S)}
  {said more : List Record}

theorem refl (o : Outside (Recorded S)) : Account o o [] [] where
  history := (List.append_nil _).symm
  answers := by simp
  log := ⟨[], .nil, rfl⟩

theorem trans (hfirst : Account o o' asked said) (hsecond : Account o' o'' later more) :
    Account o o'' (asked ++ later) (said ++ more) where
  history := by rw [hsecond.history, hfirst.history, List.append_assoc]
  answers := fun e he =>
    (List.mem_append.mp he).elim (hfirst.answers e) (hsecond.answers e)
  log := by
    obtain ⟨heard, hmerged, hlog⟩ := hfirst.log
    obtain ⟨heard', hmerged', hlog'⟩ := hsecond.log
    refine ⟨heard ++ heard', ?_, ?_⟩
    · rw [List.flatMap_append]
      exact hmerged.append hmerged'
    · rw [hlog', hlog, Log.addAll_append]

/-- One question. -/
theorem question (o : Outside (Recorded S)) (q : Question) :
    Account o ⟨q.after o.stores, o.log.addAll (q.records o.stores)⟩
      [⟨o.stores.stores, q, q.isAnswered o.stores.stores⟩] [] where
  history := o.stores.history_after q
  answers := by
    intro e he
    rw [List.mem_singleton.mp he]
    rfl
  log := by
    refine ⟨q.records o.stores.stores, ?_, by rw [Recorded.records_put]⟩
    rw [List.flatMap_singleton]
    exact .left_only _

/-- One record. -/
theorem note (o : Outside (Recorded S)) (level : Level) (target message : String) :
    Account o (o.note level target message) [] [⟨level, target, message⟩] where
  history := (List.append_nil _).symm
  answers := by simp
  log := ⟨_, .right_only _, rfl⟩

end Account

/-- What a client is told to do, one action after another. -/
theorem inTurn_acts (k : ClientId) (actions : List Action) (o : Outside (Recorded S)) :
    ∃ asked fault?, InTurn (actions.map (.act k)) asked fault? ∧
      ((actions.forM k.act : Job (Recorded S) PUnit) o).1 =
        fault?.elim (.ok ⟨⟩) .error ∧
      Account o ((actions.forM k.act : Job (Recorded S) PUnit) o).2 asked [] := by
  induction actions generalizing o with
  | nil => exact ⟨[], none, .done, rfl, .refl o⟩
  | cons a rest ih =>
    have hasked := Account.question o (.act k a)
    have hcons : ((a :: rest).forM k.act : Job (Recorded S) PUnit) =
        k.act a >>= fun _ => rest.forM k.act := rfl
    have hrefusal : (⟨o.stores.stores, .act k a, (Question.act k a).isAnswered o.stores.stores⟩ :
        Entry S).refusal? = (Backend.act o.stores k a).fault? := rfl
    rw [hcons, Effect.bind_apply, ClientId.act_apply]
    cases hresult : (Backend.act o.stores k a).result with
    | error f =>
      rw [Response.fault?, hresult] at hrefusal
      exact ⟨_, some f, .refused rfl hrefusal, rfl, hasked⟩
    | ok _ =>
      rw [Response.fault?, hresult] at hrefusal
      obtain ⟨asked, fault?, hturns, houtcome, hrest⟩ :=
        ih ⟨(Backend.act o.stores k a).state, o.log.addAll (Backend.act o.stores k a).records⟩
      exact ⟨_, fault?, .answered rfl hrefusal hturns, houtcome, hasked.trans hrest⟩

end

end GraphCommit
