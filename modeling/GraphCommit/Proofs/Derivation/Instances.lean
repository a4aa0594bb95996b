import GraphCommit.Proofs.Derivation.Conclusion
import GraphCommit.Proofs.Derivation.Target

/-!
# Typed instances of output classes

A query sees what is committed.  So a pass commits whatever it writes to the working repository
before it asks the next question there.  First it replays the documents of the branch, and then each
output class gets its typed instance when the class is met for the first time.

When this is done a pass goes on in rounds (`Round`): a question to the working repository, a class
that is typed and committed, or a triple for the target.  Which classes are typed is an index of the
rounds, and a class that is typed is not typed again.  What a pass asks is thus a sequence of rounds
of which only the last one can be broken off (`Proceeds`).  By induction on this sequence it is
found what precedes each query, and so the instance of a class precedes the question for its formats
(`instances_precede_formats`).
-/

namespace GraphCommit

section

variable {α : Type} {l m before after : List α} {a : α}

/-- An element of two lists in a row is in the one or in the other. -/
theorem append_eq_append_cons (heq : l ++ m = before ++ a :: after) :
    (∃ later, l = before ++ a :: later ∧ after = later ++ m) ∨
      ∃ earlier, before = l ++ earlier ∧ m = earlier ++ a :: after := by
  rcases List.append_eq_append_iff.mp heq with ⟨earlier, hbefore, hm⟩ | ⟨rest, hl, hrest⟩
  · exact Or.inr ⟨earlier, hbefore, hm⟩
  · cases rest with
    | nil => exact Or.inr ⟨[], by simpa using hl.symm, hrest.symm⟩
    | cons b later =>
      obtain ⟨rfl, hafter⟩ := List.cons.inj hrest
      exact Or.inl ⟨later, hl, hafter⟩

theorem singleton_eq_append_cons {b : α} (heq : [b] = before ++ a :: after) :
    before = [] ∧ b = a := by
  cases before with
  | nil => exact ⟨rfl, (List.cons.inj heq).1⟩
  | cons _ _ => simp at heq

end

/-! ## Questions to one client -/

namespace Question

/-- Whether a client is to evaluate a query. -/
inductive Evaluates (k : ClientId) : Question → Prop
  | select (text : String) : Evaluates k (.select k text)
  | ask (text : String) : Evaluates k (.ask k text)

/-- Whether a client is to write. -/
inductive Writes (k : ClientId) : Question → Prop
  | write (w : Write) : Writes k (.act k (.write w))

end Question

section

variable {S : Type} [Backend S]

/-- The entries are those of a write and of a commit by the same client, which were both
accepted. -/
structure IsCommitted (k : ClientId) (w : Write) (written committed : Entry S) : Prop where
  write : written.question = .act k (.write w)
  accepted : written.refusal? = none
  commit : committed.question = .act k .commit
  completed : committed.refusal? = none

/-- Each write of a client was accepted, and the next question of all was a commit by this client,
which was accepted too. -/
def Settled (k : ClientId) (asked : List (Entry S)) : Prop :=
  ∀ before written after, asked = before ++ written :: after → written.question.Writes k →
    ∃ w committed later, after = committed :: later ∧ IsCommitted k w written committed

variable {k : ClientId} {w : Write} {asked entries : List (Entry S)}

/-- A write and a commit that were not refused. -/
theorem isCommitted_of_inTurn
    (hturns : InTurn [.act k (.write w), .act k .commit] entries none) :
    ∃ written committed, entries = [written, committed] ∧ IsCommitted k w written committed := by
  cases hturns with
  | answered hwrite haccepted hrest =>
    obtain ⟨committed, rfl, hcommit, hcompleted⟩ := hrest.single
    exact ⟨_, committed, rfl, hwrite, haccepted, hcommit, hcompleted⟩

theorem settled_of_none (hnone : ∀ e ∈ asked, ¬ e.question.Writes k) :
    Settled k asked := by
  rintro before written after rfl hwrites
  exact absurd hwrites (hnone written (List.mem_append_right before List.mem_cons_self))

theorem IsCommitted.settled {written committed : Entry S}
    (hcommitted : IsCommitted k w written committed) : Settled k [written, committed] := by
  intro before e after heq hwrites
  cases before with
  | nil =>
    obtain ⟨rfl, rfl⟩ := List.cons.inj heq
    exact ⟨w, committed, [], rfl, hcommitted⟩
  | cons first rest =>
    obtain ⟨-, rfl⟩ := singleton_eq_append_cons (List.cons.inj heq).2
    rw [hcommitted.commit] at hwrites
    contradiction

theorem Settled.append (hfirst : Settled k asked) (hsecond : Settled k entries) :
    Settled k (asked ++ entries) := by
  intro before written after heq hwrites
  rcases append_eq_append_cons heq with ⟨later, hasked, rfl⟩ | ⟨earlier, -, hentries⟩
  · obtain ⟨w, committed, rest, rfl, hcommitted⟩ := hfirst before written later hasked hwrites
    exact ⟨w, committed, rest ++ entries, rfl, hcommitted⟩
  · exact hsecond earlier written after hentries hwrites

end

namespace Derivation

open Effect

variable {S : Type} {scope : Scope} {writes : List Write}

/-- The write that types the instance of a class. -/
def typing (scope : Scope) (class_ name : String) : Question :=
  .act scope.working (.write (.addTriple ⟨name, Vocabulary.type, class_⟩ scope.context))

/-- The query for the formats of an output class. -/
def lookingUp (scope : Scope) (class_ : String) : Question :=
  .select scope.working (Queries.formatOfClass class_)

/-- The query for the services with their inputs and outputs. -/
def listing (scope : Scope) : Question :=
  .select scope.working (Queries.servicesInOut scope.context)

/-- What replays the documents among some writes. -/
def replaying (scope : Scope) (writes : List Write) : List Question :=
  (writes.filter Write.isAddData).flatMap fun w =>
    [.act scope.working (.write w), .act scope.working .commit]

theorem replaying_append (writes more : List Write) :
    replaying scope (writes ++ more) = replaying scope writes ++ replaying scope more := by
  simp [replaying]

theorem typing_inj {class_ name other otherName : String} :
    typing scope class_ name = typing scope other otherName ↔
      class_ = other ∧ name = otherName := by
  constructor
  · intro heq
    injection heq with _ haction
    injection haction with hwrite
    injection hwrite with htriple
    injection htriple with hname _ hclass
    exact ⟨hclass, hname⟩
  · rintro ⟨rfl, rfl⟩
    rfl

/-! ## Which query is which -/

theorem head_declarations : Queries.declarations.toList.head? = some 'P' := by
  simp only [Queries.declarations, Vocabulary.shortNames, List.map_cons, String.toList_join,
    List.flatMap_cons, String.toList_append, List.append_assoc, List.head?_append]
  rfl

theorem formatOfClass_toList (class_ : String) :
    (Queries.formatOfClass class_).toList = Queries.declarations.toList ++
      ("SELECT ?outfmt WHERE \x7b <".toList ++ (class_.toList ++
        ("> rdfs:subClassOf [ owl:onProperty dArceoFile:fileFormat ; owl:hasValue ?outfmt]. \x7d\n"
          ).toList)) := by
  simp [Queries.formatOfClass, String.toList_append]

theorem formatOfClass_inj {class_ other : String} :
    Queries.formatOfClass class_ = Queries.formatOfClass other ↔ class_ = other := by
  refine ⟨fun heq => ?_, congrArg _⟩
  have htext := congrArg String.toList heq
  rw [formatOfClass_toList, formatOfClass_toList] at htext
  have hclass := List.append_cancel_left (List.append_cancel_left htext)
  exact String.toList_inj.mp (List.append_cancel_right hclass)

/-- A query over the declared names that selects something else. -/
theorem ne_formatOfClass {text : String} (first : String)
    (htext : ∃ rest, text.toList = Queries.declarations.toList ++ (first.toList ++ rest))
    (hlong : 12 ≤ first.toList.length) (hfirst : first.toList.take 12 ≠ "SELECT ?outf".toList)
    (class_ : String) : text ≠ Queries.formatOfClass class_ := by
  rintro rfl
  obtain ⟨rest, hrest⟩ := htext
  rw [formatOfClass_toList] at hrest
  have htake := congrArg (List.take 12) (List.append_cancel_left hrest)
  rw [List.take_append_of_le_length (by decide), List.take_append_of_le_length hlong] at htake
  exact hfirst htake.symm

theorem servicesInOut_ne (context class_ : String) :
    Queries.servicesInOut context ≠ Queries.formatOfClass class_ := by
  refine ne_formatOfClass "SELECT ?service ?inpuid ?outclass ?infilecond ?inoutfmtcond " ?_
    (by decide) (by decide) class_
  simp only [Queries.servicesInOut, String.toList_append, List.append_assoc]
  exact ⟨_, rfl⟩

theorem head_typesOf (output : String) : (Queries.typesOf output).toList.head? = some 'S' := by
  unfold Queries.typesOf
  generalize Vocabulary.type = property
  simp [String.toList_append]

theorem Resolving.ne {text : String} (htext : Resolving text) (class_ : String) :
    text ≠ Queries.formatOfClass class_ := by
  cases htext with
  | types output =>
    intro heq
    have hheads := congrArg (fun text => text.toList.head?) heq
    simp only [head_typesOf, formatOfClass_toList, List.head?_append, head_declarations,
      Option.some_or] at hheads
    contradiction
  | ofInput condition output =>
    refine ne_formatOfClass "SELECT ?outpuid WHERE \x7b " ?_ (by decide) (by decide) class_
    simp only [Queries.outputOfInput, String.toList_append, List.append_assoc]
    exact ⟨_, rfl⟩
  | ofLocal condition output =>
    refine ne_formatOfClass "SELECT ?outpuid WHERE \x7b " ?_ (by decide) (by decide) class_
    simp only [Queries.outputOfLocal, String.toList_append, List.append_assoc]
    exact ⟨_, rfl⟩

/-! ## Rounds -/

/-- What a pass asks in one round, and the classes that are typed before and after it. -/
inductive Round (scope : Scope) : List String → List Question → List String → Prop
  | asks {typed : List String} {q : Question} (hquery : q.Evaluates scope.working)
      (hother : ∀ class_, q ≠ lookingUp scope class_) : Round scope typed [q] typed
  | looksUp {typed : List String} {class_ : String} (htyped : class_ ∈ typed) :
      Round scope typed [lookingUp scope class_] typed
  | types {typed : List String} {class_ name : String} (hnew : class_ ∉ typed)
      (hname : instanceOf class_ = .ok name) :
      Round scope typed [typing scope class_ name, .act scope.working .commit] (class_ :: typed)
  | writes {typed : List String} (triple : Triple) :
      Round scope typed [writing scope.target scope.context triple] typed

section

variable [Backend S]

/-- What is asked in some rounds, of which the last one may have been broken off by a refusal. -/
inductive Proceeds (scope : Scope) : List String → List (Entry S) → Option Fault → Prop
  | start : Proceeds scope [] [] none
  | round {before typed : List String} {asked entries : List (Entry S)} {questions : List Question}
      {fault? : Option Fault} (hbefore : Proceeds scope before asked none)
      (hround : Round scope before questions typed) (hturns : InTurn questions entries fault?) :
      Proceeds scope typed (asked ++ entries) fault?

variable {typed known : List String} {questions : List Question} {fault? : Option Fault}
  {asked entries before after : List (Entry S)} {e : Entry S}

/-- Nothing was refused in rounds that are complete. -/
theorem Proceeds.answered (hproceeds : Proceeds scope typed asked none) (he : e ∈ asked) :
    e.refusal? = none := by
  generalize hfault : (none : Option Fault) = fault? at hproceeds
  induction hproceeds with
  | start => contradiction
  | round _ _ hturns ih =>
    subst hfault
    rcases List.mem_append.mp he with hearlier | hlast
    · exact ih hearlier rfl
    · exact hturns.refusal?_eq_none hlast

theorem Proceeds.nothing_after (hproceeds : Proceeds scope typed asked fault?)
    (hasked : asked = before ++ e :: after) (hrefused : e.refusal? ≠ none) : after = [] := by
  cases hproceeds with
  | start => simp at hasked
  | round hbefore _ hturns =>
    rcases append_eq_append_cons hasked with ⟨later, hearlier, -⟩ | ⟨earlier, -, hlast⟩
    · have hmem : e ∈ _ := hearlier ▸ List.mem_append_right before List.mem_cons_self
      exact absurd (hbefore.answered hmem) hrefused
    · exact hturns.nothing_after hlast hrefused

/-! ### Queries -/

/-- A query is a round of its own. -/
theorem Round.at_query (hround : Round scope known questions typed)
    (hturns : InTurn questions entries fault?) (hentries : entries = before ++ e :: after)
    (hquery : e.question.Evaluates scope.working) :
    before = [] ∧ ∀ class_, e.question = lookingUp scope class_ → class_ ∈ known := by
  have hmem : e.question ∈ questions :=
    hturns.mem_questions (hentries ▸ List.mem_append_right before List.mem_cons_self)
  cases hround with
  | asks _ hother =>
    obtain ⟨asked, rfl, hasked, -⟩ := hturns.single
    obtain ⟨hbefore, rfl⟩ := singleton_eq_append_cons hentries
    exact ⟨hbefore, fun class_ hlookup => absurd (hasked.symm.trans hlookup) (hother class_)⟩
  | looksUp htyped =>
    obtain ⟨asked, rfl, hasked, -⟩ := hturns.single
    obtain ⟨hbefore, rfl⟩ := singleton_eq_append_cons hentries
    refine ⟨hbefore, fun other hlookup => ?_⟩
    injection hasked.symm.trans hlookup with _ htext
    rwa [← formatOfClass_inj.mp htext]
  | types _ _ =>
    generalize e.question = q at hmem hquery
    cases hquery <;> simp [typing] at hmem
  | writes triple =>
    generalize e.question = q at hmem hquery
    cases hquery <;> simp [writing] at hmem

/-- What was asked before a query are complete rounds.  If the formats of a class are looked up,
then the class was typed in one of them. -/
theorem Proceeds.at_query (hproceeds : Proceeds scope typed asked fault?)
    (hasked : asked = before ++ e :: after) (hquery : e.question.Evaluates scope.working) :
    ∃ known, Proceeds scope known before none ∧
      ∀ class_, e.question = lookingUp scope class_ → class_ ∈ known := by
  induction hproceeds generalizing after with
  | start => simp at hasked
  | @round known _ earlier _ _ _ hbefore hround hturns ih =>
    rcases append_eq_append_cons hasked with ⟨later, hearlier, -⟩ | ⟨first, hfirst, hlast⟩
    · exact ih hearlier
    · obtain ⟨rfl, hlookup⟩ := hround.at_query hturns hlast hquery
      rw [List.append_nil] at hfirst
      exact ⟨known, hfirst ▸ hbefore, hlookup⟩

/-! ### Classes that are typed -/

/-- The instance of a class was typed, and the next question of all committed this. -/
def IsTypedIn (scope : Scope) (class_ name : String) (asked : List (Entry S)) : Prop :=
  ∃ earlier written committed later, asked = earlier ++ written :: committed :: later ∧
    IsCommitted scope.working (.addTriple ⟨name, Vocabulary.type, class_⟩ scope.context)
      written committed

variable {class_ name : String}

theorem IsTypedIn.append (htyped : IsTypedIn scope class_ name asked)
    (first later : List (Entry S)) : IsTypedIn scope class_ name (first ++ asked ++ later) := by
  obtain ⟨earlier, written, committed, rest, rfl, hcommitted⟩ := htyped
  exact ⟨first ++ earlier, written, committed, rest ++ later, by simp, hcommitted⟩

/-- The classes that are typed are those whose instances were typed. -/
theorem Proceeds.isTypedIn (hproceeds : Proceeds scope typed asked none) (htyped : class_ ∈ typed) :
    ∃ name, instanceOf class_ = .ok name ∧ IsTypedIn scope class_ name asked := by
  generalize hfault : (none : Option Fault) = fault? at hproceeds
  induction hproceeds with
  | start => contradiction
  | @round known _ asked entries _ _ _ hround hturns ih =>
    subst hfault
    have hearlier : class_ ∈ known → ∃ name, instanceOf class_ = .ok name ∧
        IsTypedIn scope class_ name (asked ++ entries) := by
      intro hknown
      obtain ⟨name, hname, htypedIn⟩ := ih hknown rfl
      exact ⟨name, hname, htypedIn.append [] entries⟩
    cases hround with
    | asks => exact hearlier htyped
    | looksUp => exact hearlier htyped
    | writes => exact hearlier htyped
    | types _ hname =>
      rcases List.mem_cons.mp htyped with rfl | hknown
      · obtain ⟨written, committed, rfl, hcommitted⟩ := isCommitted_of_inTurn hturns
        exact ⟨_, hname, asked, written, committed, [], rfl, hcommitted⟩
      · exact hearlier hknown

/-- How often the instance of a class is to be typed under a name. -/
def typings (scope : Scope) (class_ name : String) (questions : List Question) : Nat :=
  questions.count (typing scope class_ name)

theorem typings_eq_zero (hnone : typing scope class_ name ∉ questions) :
    typings scope class_ name questions = 0 :=
  List.count_eq_zero.mpr hnone

theorem IsTypedIn.typings_pos (htyped : IsTypedIn scope class_ name asked) :
    0 < typings scope class_ name (asked.map Entry.question) := by
  obtain ⟨earlier, written, committed, later, rfl, hcommitted⟩ := htyped
  have hmem : typing scope class_ name = written.question := hcommitted.write.symm
  exact List.count_pos_iff.mpr (by simp [hmem])

/-- A class is typed in a round only if it was not typed before. -/
theorem Round.typings_le (hround : Round scope known questions typed)
    (hother : scope.working ≠ scope.target) (class_ name : String) :
    (if class_ ∈ known then 1 else 0) + typings scope class_ name questions ≤
      if class_ ∈ typed then 1 else 0 := by
  cases hround with
  | asks hquery _ =>
    refine (congrArg _ (typings_eq_zero fun hmem => ?_)).le
    rw [← List.mem_singleton.mp hmem] at hquery
    cases hquery
  | looksUp _ =>
    refine (congrArg _ (typings_eq_zero fun hmem => ?_)).le
    have heq := List.mem_singleton.mp hmem
    contradiction
  | writes triple =>
    refine (congrArg _ (typings_eq_zero fun hmem => ?_)).le
    injection List.mem_singleton.mp hmem with hclient _
    exact hother hclient
  | @types class' name' hnew _ =>
    have hcommit : typing scope class_ name ∉ [.act scope.working .commit] := by simp [typing]
    have hpair : typings scope class_ name [typing scope class' name', .act scope.working .commit] =
        if class' = class_ ∧ name' = name then 1 else 0 := by
      rw [typings, List.count_cons, List.count_eq_zero.mpr hcommit]
      simp [typing_inj]
    rw [hpair]
    by_cases hclass : class' = class_
    · subst hclass
      rw [if_neg hnew, if_pos List.mem_cons_self]
      split <;> omega
    · simp [hclass, Ne.symm hclass]

theorem Proceeds.typings_le (hproceeds : Proceeds scope typed asked fault?)
    (hother : scope.working ≠ scope.target) (class_ name : String) :
    typings scope class_ name (asked.map Entry.question) ≤ if class_ ∈ typed then 1 else 0 := by
  induction hproceeds with
  | start => exact Nat.zero_le _
  | @round known typed asked entries questions _ hbefore hround hturns ih =>
    have hround' := hround.typings_le hother class_ name
    have hentries : typings scope class_ name (entries.map Entry.question) ≤
        typings scope class_ name questions := hturns.isPrefix.sublist.count_le _
    rw [List.map_append, typings, List.count_append]
    simp only [typings] at ih hentries hround' ⊢
    omega

/-! ### Writes -/

/-- A round that writes types the instance of a class, and a commit follows. -/
theorem Round.types_of_writes (hround : Round scope known questions typed)
    (hother : scope.working ≠ scope.target) {q : Question} (hq : q ∈ questions)
    (hwrites : q.Writes scope.working) :
    ∃ class_ name, instanceOf class_ = .ok name ∧ q = typing scope class_ name ∧
      questions = [typing scope class_ name, .act scope.working .commit] := by
  cases hround with
  | asks hquery _ =>
    rw [List.mem_singleton.mp hq] at hwrites
    cases hwrites
    contradiction
  | looksUp _ =>
    rw [List.mem_singleton.mp hq] at hwrites
    contradiction
  | writes triple =>
    cases hwrites
    injection List.mem_singleton.mp hq with hclient _
    exact absurd hclient hother
  | @types class_ name _ hname =>
    rcases List.mem_cons.mp hq with htyping | hcommit
    · exact ⟨class_, name, hname, htyping, rfl⟩
    · rw [List.mem_singleton.mp hcommit] at hwrites
      contradiction

theorem Proceeds.types_of_writes (hproceeds : Proceeds scope typed asked fault?)
    (hother : scope.working ≠ scope.target) (he : e ∈ asked)
    (hwrites : e.question.Writes scope.working) :
    ∃ class_ name, instanceOf class_ = .ok name ∧ e.question = typing scope class_ name := by
  induction hproceeds with
  | start => contradiction
  | round _ hround hturns ih =>
    rcases List.mem_append.mp he with hearlier | hlast
    · exact ih hearlier
    · obtain ⟨class_, name, hname, htyping, -⟩ :=
        hround.types_of_writes hother (hturns.mem_questions hlast) hwrites
      exact ⟨class_, name, hname, htyping⟩

theorem Round.settled (hround : Round scope known questions typed)
    (hother : scope.working ≠ scope.target) (hturns : InTurn questions entries none) :
    Settled scope.working entries := by
  by_cases hwrites : ∃ q ∈ questions, q.Writes scope.working
  · obtain ⟨q, hq, hwrites⟩ := hwrites
    obtain ⟨class_, name, -, -, rfl⟩ := hround.types_of_writes hother hq hwrites
    obtain ⟨written, committed, rfl, hcommitted⟩ := isCommitted_of_inTurn hturns
    exact hcommitted.settled
  · exact settled_of_none fun e he hwrites' => hwrites ⟨_, hturns.mem_questions he, hwrites'⟩

/-- Whatever was written in complete rounds is committed. -/
theorem Proceeds.settled (hproceeds : Proceeds scope typed asked none)
    (hother : scope.working ≠ scope.target) : Settled scope.working asked := by
  generalize hfault : (none : Option Fault) = fault? at hproceeds
  induction hproceeds with
  | start => exact settled_of_none (by simp)
  | round _ hround hturns ih =>
    subst hfault
    exact Settled.append (ih rfl) (hround.settled hother hturns)

/-! ## The replay -/

theorem replaying_cons (w : Write) :
    replaying scope (w :: writes) =
      (if w.isAddData then [.act scope.working (.write w), .act scope.working .commit] else []) ++
        replaying scope writes := by
  cases hdata : w.isAddData <;> simp [replaying, hdata]

/-- A replay consists of writes and commits. -/
theorem act_of_mem_replaying {q : Question} (hq : q ∈ replaying scope writes) :
    (∃ w, w.isAddData = true ∧ q = .act scope.working (.write w)) ∨
      q = .act scope.working .commit := by
  obtain ⟨w, hw, hmem⟩ := List.mem_flatMap.mp hq
  rcases List.mem_cons.mp hmem with rfl | hcommit
  · exact Or.inl ⟨w, (List.mem_filter.mp hw).2, rfl⟩
  · exact Or.inr (List.mem_singleton.mp hcommit)

/-- A replay commits what it writes. -/
theorem settled_replayed (hturns : InTurn (replaying scope writes) asked none) :
    Settled scope.working asked := by
  induction writes generalizing asked with
  | nil =>
    cases hturns
    exact settled_of_none (by simp)
  | cons w rest ih =>
    rw [replaying_cons] at hturns
    split at hturns
    · cases hturns with
      | answered hwrite haccepted hcommitted =>
        cases hcommitted with
        | answered hcommit hcompleted hrest =>
          have hpair : IsCommitted scope.working w _ _ := ⟨hwrite, haccepted, hcommit, hcompleted⟩
          exact Settled.append hpair.settled (ih hrest)
    · exact ih hturns

/-! ## The questions of a pass -/

/-- A pass with given typed classes has left a given history. -/
def HasLeft (typed : List String) (history : List (Entry S)) (p : Pass (Recorded S)) : Prop :=
  p.typed = typed ∧ p.outside.stores.history = history

variable {history earlier : List (Entry S)}

/-- The entry that a question leaves. -/
def asking (r : Recorded S) (q : Question) : Entry S := ⟨r.stores, q, q.isAnswered r.stores⟩

/-- A question is added to the history, with its answer or its refusal. -/
theorem ensures_question {α : Type} {question : Recorded S → Response (Recorded S) α} {q : Question}
    (hstate : ∀ r, (question r).state = q.after r)
    (hrefusal : ∀ r, (question r).fault? = q.refusal? r.stores) :
    Ensures (HasLeft typed history) (Step.job (Job.call question))
      (fun _ p => ∃ e, InTurn [q] [e] none ∧ HasLeft typed (history ++ [e]) p)
      (fun _ p => ∃ e f, InTurn [q] [e] (some f) ∧ HasLeft typed (history ++ [e]) p) := by
  refine ensures_job fun p hp => ?_
  have hleft : ∀ log, HasLeft typed (history ++ [asking p.outside.stores q])
      { p with outside := ⟨q.after p.outside.stores, log⟩ } := fun log =>
    ⟨hp.1, by rw [← hp.2]; exact Recorded.history_after _ q⟩
  have hasked : ∀ {fault? : Option Fault}, (question p.outside.stores).fault? = fault? →
      InTurn [q] [asking p.outside.stores q] fault? := fun hfault =>
    .of_single rfl ((hrefusal p.outside.stores).symm.trans hfault)
  rw [Job.call_apply, hstate]
  cases hresult : (question p.outside.stores).result with
  | ok a => exact .returns ⟨_, hasked (by rw [Response.fault?, hresult]), hleft _⟩
  | error f => exact .fails ⟨_, f, hasked (by rw [Response.fault?, hresult]), hleft _⟩

/-- A write to the working repository and the commit behind it. -/
theorem ensures_written (w : Write) :
    Ensures (HasLeft typed history)
      (do
        Step.job (scope.working.write w)
        Step.job (commitWorking scope) : Step (Recorded S) Unit)
      (fun _ p => ∃ entries,
        InTurn [.act scope.working (.write w), .act scope.working .commit] entries none ∧
          HasLeft typed (history ++ entries) p)
      (fun _ p => ∃ entries f,
        InTurn [.act scope.working (.write w), .act scope.working .commit] entries (some f) ∧
          HasLeft typed (history ++ entries) p) := by
  refine ((ensures_question (q := .act scope.working (.write w)) (fun _ => rfl) fun _ => rfl).mono
    (fun _ h => h) (fun _ _ h => h) ?_).bind fun _ => ?_
  · rintro f p ⟨e, f', hwritten, hp⟩
    exact ⟨[e], f', hwritten.append_of_refused [.act scope.working .commit], hp⟩
  · rintro p ⟨e, hwritten, hp⟩
    have hcommit : Ensures (HasLeft typed (history ++ [e])) (Step.job (commitWorking scope))
        (fun _ p => ∃ e', InTurn [.act scope.working .commit] [e'] none ∧
          HasLeft typed (history ++ [e] ++ [e']) p)
        (fun _ p => ∃ e' f, InTurn [.act scope.working .commit] [e'] (some f) ∧
          HasLeft typed (history ++ [e] ++ [e']) p) :=
      ensures_job_relabel (ensures_question (fun _ => rfl) fun _ => rfl)
    refine (hcommit p hp).mono ?_ ?_
    · rintro _ p ⟨e', hcommitted, hp⟩
      exact ⟨[e] ++ [e'], hwritten.append hcommitted, by rwa [← List.append_assoc]⟩
    · rintro _ p ⟨e', f', hcommitted, hp⟩
      exact ⟨[e] ++ [e'], f', hwritten.append hcommitted, by rwa [← List.append_assoc]⟩

/-- A pass is between two rounds. -/
def AtRest (scope : Scope) (earlier : List (Entry S)) (p : Pass (Recorded S)) : Prop :=
  ∃ asked, Proceeds scope p.typed asked none ∧ p.outside.stores.history = earlier ++ asked

/-- A pass has ended, perhaps within a round. -/
def BrokenOff (scope : Scope) (earlier : List (Entry S)) (p : Pass (Recorded S)) : Prop :=
  ∃ typed asked fault?, Proceeds scope typed asked fault? ∧
    p.outside.stores.history = earlier ++ asked

theorem AtRest.brokenOff {p : Pass (Recorded S)} (hp : AtRest scope earlier p) :
    BrokenOff scope earlier p := by
  obtain ⟨asked, hproceeds, hhistory⟩ := hp
  exact ⟨p.typed, asked, none, hproceeds, hhistory⟩

/-- A question that is a round of its own. -/
theorem ensures_round {α : Type} {question : Recorded S → Response (Recorded S) α} {q : Question}
    (hstate : ∀ r, (question r).state = q.after r)
    (hrefusal : ∀ r, (question r).fault? = q.refusal? r.stores) :
    Ensures (fun p => AtRest scope earlier p ∧ Round scope p.typed [q] p.typed)
      (Step.job (Job.call question)) (fun _ => AtRest scope earlier)
      (fun _ => BrokenOff scope earlier) := by
  rintro p ⟨⟨asked, hproceeds, hhistory⟩, hround⟩
  refine (ensures_question hstate hrefusal p ⟨rfl, hhistory⟩).mono ?_ ?_
  · rintro _ p' ⟨e, hturns, htyped, hhistory'⟩
    refine ⟨asked ++ [e], ?_, by rw [hhistory', List.append_assoc]⟩
    rw [htyped]
    exact .round hproceeds hround hturns
  · rintro _ p' ⟨e, f, hturns, -, hhistory'⟩
    exact ⟨_, asked ++ [e], some f, .round hproceeds hround hturns,
      by rw [hhistory', List.append_assoc]⟩

theorem resolves_atRest :
    Resolves scope (AtRest (S := S) scope earlier) (BrokenOff scope earlier) where
  selects := fun htext =>
    (ensures_round (fun _ => rfl) fun _ => rfl).mono
      (fun _ hp => ⟨hp, .asks (.select _) fun class_ heq => htext.ne class_ (by injection heq)⟩)
      (fun _ _ h => h) fun _ _ h => h
  asks := fun text =>
    (ensures_round (fun _ => rfl) fun _ => rfl).mono
      (fun _ hp => ⟨hp, .asks (.ask text) fun class_ heq => by contradiction⟩)
      (fun _ _ h => h) fun _ _ h => h
  notes := fun _ _ hp => hp
  records := ensures_record_keeping
    (fun triple => (ensures_round (fun _ => rfl) fun _ => rfl).mono
      (fun _ hp => ⟨hp, .writes triple⟩) (fun _ _ h => h) fun _ _ h => h)
    (fun _ _ hp => hp) fun _ _ _ hp => hp
  gives_up := fun _ hp => hp.brokenOff

/-- When the instance of a class is typed, the class is remembered after the commit. -/
theorem ensures_typeInstance (class_ : String) :
    Ensures (AtRest (S := S) scope earlier) (typeInstance scope class_)
      (fun _ p => AtRest scope earlier p ∧ class_ ∈ p.typed)
      (fun _ => BrokenOff scope earlier) := by
  unfold Derivation.typeInstance
  refine ensures_get.bind fun q => ?_
  split
  · next hknown =>
    refine ensures_pure ?_
    rintro p ⟨rfl, hp⟩
    exact ⟨hp, List.contains_iff_mem.mp hknown⟩
  · next hnew =>
    refine Ensures.bind (Q := fun name p => instanceOf class_ = .ok name ∧
      AtRest scope earlier p ∧ class_ ∉ p.typed) (ensures_given ?_ ?_) fun name => ?_
    · rintro name hname p ⟨rfl, hp⟩
      exact ⟨hname, hp, fun hmem => hnew (List.contains_iff_mem.mpr hmem)⟩
    · rintro f - p ⟨-, hp⟩
      exact hp.brokenOff
    · rintro p ⟨hname, ⟨asked, hproceeds, hhistory⟩, hfresh⟩
      -- the write and its commit are one round, so the pass is taken apart behind the commit
      rw [← bind_assoc]
      have hround : Round scope p.typed _ (class_ :: p.typed) := .types hfresh hname
      refine Ensures.bind ((ensures_written _).mono (fun _ h => h) (fun _ _ h => h) ?_)
        (fun _ => ensures_modify ?_) p ⟨rfl, hhistory⟩
      · rintro _ p' ⟨entries, f, hturns, -, hhistory'⟩
        exact ⟨_, asked ++ entries, some f, .round hproceeds hround hturns,
          by rw [hhistory', List.append_assoc]⟩
      · rintro p' ⟨entries, hturns, htyped, hhistory'⟩
        refine ⟨⟨asked ++ entries, ?_, by rw [hhistory', List.append_assoc]⟩, List.mem_cons_self⟩
        change Proceeds scope (class_ :: p'.typed) (asked ++ entries) none
        rw [htyped]
        exact .round hproceeds hround hturns

theorem ensures_deriveService (row : Row) :
    Ensures (AtRest (S := S) scope earlier) (deriveService scope row)
      (fun _ => AtRest scope earlier) (fun _ => BrokenOff scope earlier) :=
  resolves_atRest.deriveService ensures_typeInstance
    (fun _ => (ensures_round (fun _ => rfl) fun _ => rfl).mono
      (fun _ hp => ⟨hp.1, .looksUp hp.2⟩) (fun _ _ h => h) fun _ _ h => h) row

/-- A pass has replayed some writes and done nothing else. -/
def HasReplayed (scope : Scope) (earlier : List (Entry S)) (done : List Write)
    (p : Pass (Recorded S)) : Prop :=
  ∃ asked, InTurn (replaying scope done) asked none ∧ HasLeft [] (earlier ++ asked) p

theorem ensures_replay {done rest : List Write} {w : Write} (hwrites : writes = done ++ w :: rest) :
    Ensures (HasReplayed (S := S) scope earlier done) (replay scope w)
      (fun _ => HasReplayed scope earlier (done ++ [w]))
      (fun _ p => ∃ asked f, InTurn (replaying scope writes) asked (some f) ∧
        HasLeft [] (earlier ++ asked) p) := by
  have hnext : replaying scope (done ++ [w]) = replaying scope done ++ replaying scope [w] :=
    replaying_append done [w]
  unfold Derivation.replay
  split
  · next hdata =>
    have hround : replaying scope [w] =
        [.act scope.working (.write w), .act scope.working .commit] := by simp [replaying, hdata]
    rw [hround] at hnext
    rintro p ⟨asked, hasked, hp⟩
    refine (ensures_written w p hp).mono ?_ ?_
    · rintro _ p' ⟨entries, hturns, hp'⟩
      refine ⟨asked ++ entries, hnext ▸ hasked.append hturns, ?_⟩
      rwa [← List.append_assoc]
    · rintro _ p' ⟨entries, f, hturns, hp'⟩
      refine ⟨asked ++ entries, f, ?_, by rwa [← List.append_assoc]⟩
      rw [hwrites, List.append_cons, replaying_append, hnext]
      exact (hasked.append hturns).append_of_refused _
  · next hdata =>
    have hnone : replaying scope [w] = [] := by simp [replaying, hdata]
    refine ensures_pure ?_
    rintro p ⟨asked, hasked, hp⟩
    refine ⟨asked, ?_, hp⟩
    rwa [hnext, hnone, List.append_nil]

/-- A pass replays, and if nothing was refused then it goes on in rounds. -/
def HasAsked (scope : Scope) (writes : List Write) (replayed later : List (Entry S)) : Prop :=
  ∃ replay? typed fault?, InTurn (replaying scope writes) replayed replay? ∧
    (replay? ≠ none → later = []) ∧ Proceeds scope typed later fault?

theorem hasAsked_pass (scope : Scope) (writes : List Write) (o : Outside (Recorded S)) :
    ∃ replayed later, HasAsked scope writes replayed later ∧
      (pass scope writes { outside := o }).2.outside.stores.history =
        o.stores.history ++ (replayed ++ later) := by
  have hpass : Ensures (HasReplayed scope o.stores.history []) (pass scope writes)
      (fun _ p => ∃ replayed later, HasAsked scope writes replayed later ∧
        p.outside.stores.history = o.stores.history ++ (replayed ++ later))
      (fun _ p => ∃ replayed later, HasAsked scope writes replayed later ∧
        p.outside.stores.history = o.stores.history ++ (replayed ++ later)) := by
    unfold Derivation.pass
    refine ((ensures_forM fun _ _ _ hwrites => ensures_replay hwrites).mono (fun _ h => h)
      (fun _ _ h => h) ?_).bind fun _ => ?_
    · -- the replay was broken off, and nothing is asked after it
      rintro _ p ⟨replayed, f, hturns, -, hhistory⟩
      refine ⟨replayed, [], ⟨some f, [], none, hturns, fun _ => rfl, .start⟩, ?_⟩
      rwa [List.append_nil]
    · -- the replay is over, and the rounds begin with nothing typed
      rintro p ⟨replayed, hturns, htyped, hhistory⟩
      have hrounds : Ensures (AtRest scope (o.stores.history ++ replayed))
          (do
            let services ← Step.job (scope.working.select (Queries.servicesInOut scope.context))
            services.forM (deriveService scope))
          (fun _ => AtRest scope (o.stores.history ++ replayed))
          (fun _ => BrokenOff scope (o.stores.history ++ replayed)) := by
        refine ((ensures_round (q := listing scope) (fun _ => rfl) fun _ => rfl).mono
          (fun p hp => ⟨hp, ?_⟩) (fun _ _ h => h) fun _ _ h => h).bind fun services =>
            ensures_forM_keeping fun row _ => ensures_deriveService row
        exact .asks (.select _) fun class_ heq => servicesInOut_ne _ class_ (by injection heq)
      refine (hrounds p ⟨[], htyped ▸ .start, by rwa [List.append_nil]⟩).mono ?_ ?_
      · rintro _ p' ⟨later, hproceeds, hhistory'⟩
        exact ⟨replayed, later, ⟨none, _, none, hturns, fun h => absurd rfl h, hproceeds⟩,
          by rw [hhistory', List.append_assoc]⟩
      · rintro _ p' ⟨typed, later, fault?, hproceeds, hhistory'⟩
        exact ⟨replayed, later, ⟨none, typed, fault?, hturns, fun h => absurd rfl h, hproceeds⟩,
          by rw [hhistory', List.append_assoc]⟩
  have hstart : HasReplayed scope o.stores.history [] { outside := o } :=
    ⟨[], .done, rfl, (List.append_nil _).symm⟩
  have hends := hpass _ hstart
  generalize pass scope writes { outside := o } = done at hends ⊢
  cases hends with
  | returns h => exact h
  | fails h => exact h

/-! ## Instances before formats -/

/-- What a pass asks first replays the documents, and what it asks later derives from them. -/
structure Prepares (scope : Scope) (writes : List Write) (replayed later : List (Entry S)) :
    Prop where
  /-- The documents are written in order, each followed by its commit, and other writes are left
  out.  Unless all of this was accepted, it is the whole pass. -/
  replays : ∃ fault?, InTurn (replaying scope writes) replayed fault? ∧ (fault? ≠ none → later = [])
  /-- What is written later to the working repository types the instances of classes. -/
  types : ∀ e ∈ later, e.question.Writes scope.working →
    ∃ class_ name, instanceOf class_ = .ok name ∧ e.question = typing scope class_ name
  /-- No instance is typed twice. -/
  once : ∀ class_ name,
    typings scope class_ name ((replayed ++ later).map Entry.question) ≤ 1
  /-- When the formats of a class are looked up, its instance has been typed once, and the next
  question of all was the commit. -/
  typed : ∀ before e after class_, replayed ++ later = before ++ e :: after →
    e.question = lookingUp scope class_ →
    ∃ name, instanceOf class_ = .ok name ∧ IsTypedIn scope class_ name before ∧
      typings scope class_ name (before.map Entry.question) = 1
  /-- When a query is evaluated, all that was written before it is committed. -/
  settled : ∀ before e after, replayed ++ later = before ++ e :: after →
    e.question.Evaluates scope.working → Settled scope.working before
  /-- A refusal ends the pass. -/
  ends : ∀ before e after, replayed ++ later = before ++ e :: after → e.refusal? ≠ none →
    after = []

section

variable {replayed later : List (Entry S)}

theorem HasAsked.typings_le (hasked : HasAsked scope writes replayed later)
    (hother : scope.working ≠ scope.target) (class_ name : String) :
    typings scope class_ name ((replayed ++ later).map Entry.question) ≤ 1 := by
  obtain ⟨_, typed, _, hturns, -, hproceeds⟩ := hasked
  have hnone : typing scope class_ name ∉ replayed.map Entry.question := by
    intro hmem
    rcases act_of_mem_replaying (hturns.isPrefix.subset hmem) with ⟨w, hdata, hwrite⟩ | hcommit
    · injection hwrite with _ haction
      injection haction with hadd
      rw [← hadd] at hdata
      contradiction
    · injection hcommit with _ haction
      contradiction
  have hlater := hproceeds.typings_le hother class_ name
  have hreplayed := typings_eq_zero hnone
  simp only [typings, List.map_append, List.count_append] at hlater hreplayed ⊢
  rw [hreplayed, Nat.zero_add]
  exact hlater.trans (by split <;> omega)

/-- At a query the replay is complete, and so are the rounds before it. -/
theorem HasAsked.at_query (hasked : HasAsked scope writes replayed later)
    (hparts : replayed ++ later = before ++ e :: after)
    (hquery : e.question.Evaluates scope.working) :
    ∃ earlier known, before = replayed ++ earlier ∧
      InTurn (replaying scope writes) replayed none ∧ Proceeds scope known earlier none ∧
      ∀ class_, e.question = lookingUp scope class_ → class_ ∈ known := by
  obtain ⟨replay?, typed, fault?, hturns, hstops, hproceeds⟩ := hasked
  rcases append_eq_append_cons hparts with ⟨rest, hreplayed, -⟩ | ⟨earlier, hbefore, hlater⟩
  · -- a replay has no query
    have hmem : e ∈ replayed := hreplayed ▸ List.mem_append_right before List.mem_cons_self
    rcases act_of_mem_replaying (hturns.mem_questions hmem) with ⟨w, -, hwrite⟩ | hcommit
    · rw [hwrite] at hquery
      contradiction
    · rw [hcommit] at hquery
      contradiction
  · obtain ⟨known, hknown, hlookup⟩ := hproceeds.at_query hlater hquery
    have hreplay : replay? = none := by
      by_contra hstopped
      simp [hstops hstopped] at hlater
    exact ⟨earlier, known, hbefore, hreplay ▸ hturns, hknown, hlookup⟩

theorem HasAsked.nothing_after (hasked : HasAsked scope writes replayed later)
    (hparts : replayed ++ later = before ++ e :: after) (hrefused : e.refusal? ≠ none) :
    after = [] := by
  obtain ⟨replay?, typed, fault?, hturns, hstops, hproceeds⟩ := hasked
  rcases append_eq_append_cons hparts with ⟨rest, hreplayed, hafter⟩ | ⟨earlier, -, hlater⟩
  · -- what was refused in the replay keeps the pass from going on
    obtain ⟨f, hf⟩ := Option.ne_none_iff_exists'.mp hrefused
    have hmem : e ∈ replayed := hreplayed ▸ List.mem_append_right before List.mem_cons_self
    have hstopped : replay? = some f := (hturns.refused_last hmem hf).1
    rw [hafter, hturns.nothing_after hreplayed hrefused, hstops (by simp [hstopped])]
    rfl
  · exact hproceeds.nothing_after hlater hrefused

theorem HasAsked.prepares (hasked : HasAsked scope writes replayed later)
    (hother : scope.working ≠ scope.target) : Prepares scope writes replayed later where
  replays := by
    obtain ⟨replay?, -, -, hturns, hstops, -⟩ := hasked
    exact ⟨replay?, hturns, hstops⟩
  types := by
    intro e he hwrites
    obtain ⟨-, typed, fault?, -, -, hproceeds⟩ := hasked
    exact hproceeds.types_of_writes hother he hwrites
  once := hasked.typings_le hother
  typed := by
    intro before e after class_ hparts hlookup
    have hquery : e.question.Evaluates scope.working := hlookup ▸ .select _
    obtain ⟨earlier, known, rfl, -, hknown, htyped⟩ := hasked.at_query hparts hquery
    obtain ⟨name, hname, htypedIn⟩ := hknown.isTypedIn (htyped class_ hlookup)
    have hbefore := htypedIn.append replayed []
    rw [List.append_nil] at hbefore
    have hall := hasked.typings_le hother class_ name
    rw [hparts, List.map_append, typings, List.count_append] at hall
    have hpos := hbefore.typings_pos
    exact ⟨name, hname, hbefore, by simp only [typings] at hpos ⊢; omega⟩
  settled := by
    intro before e after hparts hquery
    obtain ⟨earlier, known, rfl, hturns, hknown, -⟩ := hasked.at_query hparts hquery
    exact (settled_replayed hturns).append (hknown.settled hother)
  ends := fun before e after hparts hrefused => hasked.nothing_after hparts hrefused

end

/-- The working repository has a client of its own.  A derivation that has opened it replays the
documents of the branch before it asks anything there.  Then it types the instance of each output
class once, commits this with the next question, and only after that looks up the formats of the
class.  No query is evaluated over uncommitted writes.  The first question of the pass that is
refused is its last one; what comes after it cleans the working repository and shuts it down. -/
theorem instances_precede_formats (target : ClientId) (context : String) (writes : List Write)
    (o : Outside (Recorded S))
    (hother : ∀ working, (Backend.openWorking o.stores).result = .ok working → working ≠ target) :
    (∀ f, (Backend.openWorking o.stores).result = .error f →
      (run target context writes o).2.stores.history = o.stores.history ++ [opening o]) ∧
    ∀ working, (Backend.openWorking o.stores).result = .ok working →
      ∃ replayed later swept closing,
        (run target context writes o).2.stores.history =
          o.stores.history ++ opening o :: (replayed ++ later ++ swept ++ [closing]) ∧
        (pass ⟨context, working, target⟩ writes
          { outside := opened context o }).2.outside.stores.history =
            o.stores.history ++ opening o :: (replayed ++ later) ∧
        Prepares ⟨context, working, target⟩ writes replayed later ∧
        swept.map Entry.question <+: (sweeping ⟨context, working, target⟩).map (.act working) ∧
        closing.question = .shutDownWorking := by
  have hopened : (opened context o).stores.history = o.stores.history ++ [opening o] :=
    (account_opened context o).history
  refine ⟨fun f hopen => ?_, fun working hopen => ?_⟩
  · rw [run_apply, hopen]
    exact hopened
  · obtain ⟨consulted, swept, closing, said, stages, hend⟩ :=
      concludes_run target context writes hopen
    obtain ⟨replayed, later, hasked, hpassed⟩ :=
      hasAsked_pass ⟨context, working, target⟩ writes (opened context o)
    -- the same history was told in two ways
    have hconsulted : consulted = replayed ++ later :=
      List.append_cancel_left (hend.consults.symm.trans hpassed)
    refine ⟨replayed, later, swept, closing, ?_, ?_, hasked.prepares (hother working hopen),
      hend.sweeps.isPrefix, hend.shuts⟩
    · rw [hend.account.history, hopened, hconsulted, List.append_assoc]
      rfl
    · rw [hpassed, hopened, List.append_assoc]
      rfl

/-- Stores in whose working repository two services are described that have the same output
class. -/
def sharedClass : Outside (Recorded Scripted) where
  stores :=
    { stores :=
        { working :=
            { selects :=
                [(Queries.servicesInOut "urn:g",
                  [Row.ofList [("service", "urn:s"), ("inpuid", "urn:pdf"), ("outclass", "urn:C")],
                   Row.ofList
                    [("service", "urn:t"), ("inpuid", "urn:pdf"), ("outclass", "urn:C")]]),
                 (Queries.formatOfClass "urn:C", [Row.ofList [("outfmt", "urn:png")]])] }
          clients := [(.onCommit, {})] } }
  log := default

/-- The writes of a branch, of which the second one is not replayed. -/
def mixedWrites : List Write :=
  [.addData "urn:d" "urn:b" "urn:g", .clear "urn:h", .addData "urn:e" "urn:b" "urn:g"]

theorem instances_precede_formats_shared :
    (∀ working, (Backend.openWorking sharedClass.stores).result = .ok working →
      working ≠ Scripted.mainClient 0) ∧
    (Backend.openWorking sharedClass.stores).result = .ok Scripted.workingClient ∧
    ∃ replayed later swept closing,
      (run (Scripted.mainClient 0) "urn:g" mixedWrites sharedClass).2.stores.history =
        sharedClass.stores.history ++
          opening sharedClass :: (replayed ++ later ++ swept ++ [closing]) ∧
      (pass ⟨"urn:g", Scripted.workingClient, Scripted.mainClient 0⟩ mixedWrites
        { outside := opened "urn:g" sharedClass }).2.outside.stores.history =
          sharedClass.stores.history ++ opening sharedClass :: (replayed ++ later) ∧
      Prepares ⟨"urn:g", Scripted.workingClient, Scripted.mainClient 0⟩ mixedWrites
        replayed later ∧
      swept.map Entry.question <+:
        (sweeping ⟨"urn:g", Scripted.workingClient, Scripted.mainClient 0⟩).map
          (.act Scripted.workingClient) ∧
      closing.question = .shutDownWorking := by
  have hother : ∀ working, (Backend.openWorking sharedClass.stores).result = .ok working →
      working ≠ Scripted.mainClient 0 :=
    Scripted.ne_mainClient_of_openWorking sharedClass.stores.stores 0
  exact ⟨hother, rfl,
    (instances_precede_formats (Scripted.mainClient 0) "urn:g" mixedWrites sharedClass hother).2
      Scripted.workingClient rfl⟩

end

end Derivation

end GraphCommit
