import GraphCommit.Proofs.Derivation.Target
import GraphCommit.Proofs.Derivation.Trigger
import GraphCommit.Proofs.Opening

/-!
# Several passes in one branch

A connection can be closed several times while it serves one branch, and each close makes a pass
over all that was loaded so far.  Every pass numbers the transformations of a service from one, in
the order in which it finds them (`values_getElem?`), so a number that was given out before is given
out again.

One pass describes one transformation by each name.  A branch does so if and only if its passes
agree: for each service, the inputs that one of them has written are the first of those that the
other one has written, or the other way round, and so are the outputs (`unambiguous_iff`).  The
working repository may answer otherwise when a document is added, so passes need not agree
(`number_given_twice`).
-/

namespace GraphCommit

/-- Of two lists one is the beginning of the other if they are the same as far as both go. -/
theorem prefix_or_prefix_iff {α : Type} {l m : List α} :
    (l <+: m ∨ m <+: l) ↔ ∀ (n : Nat) (a b : α), l[n]? = some a → m[n]? = some b → a = b := by
  constructor
  · rintro (hstart | hstart) n a b ha hb
    · obtain ⟨hn, rfl⟩ := List.getElem?_eq_some_iff.mp ha
      exact Option.some.inj ((List.prefix_iff_getElem?.mp hstart n hn).symm.trans hb)
    · obtain ⟨hn, rfl⟩ := List.getElem?_eq_some_iff.mp hb
      exact Option.some.inj (ha.symm.trans (List.prefix_iff_getElem?.mp hstart n hn))
  · intro hsame
    rcases Nat.le_total l.length m.length with hle | hle
    · refine Or.inl (List.prefix_iff_getElem?.mpr fun n hn => ?_)
      rw [List.getElem?_eq_getElem (Nat.lt_of_lt_of_le hn hle)]
      exact congrArg some (hsame n _ _ (List.getElem?_eq_getElem hn)
        (List.getElem?_eq_getElem (Nat.lt_of_lt_of_le hn hle))).symm
    · refine Or.inr (List.prefix_iff_getElem?.mpr fun n hn => ?_)
      rw [List.getElem?_eq_getElem (Nat.lt_of_lt_of_le hn hle)]
      exact congrArg some (hsame n _ _ (List.getElem?_eq_getElem (Nat.lt_of_lt_of_le hn hle))
        (List.getElem?_eq_getElem hn))

namespace Derivation

/-! ## The values of a service -/

/-- The number at the end of a name. -/
def numberIn (name : String) : Nat := Nat.ofDigitChars 10 (digitsAtEnd name) 0

@[simp] theorem numberIn_transformationName (service : String) (n : Nat) :
    numberIn (transformationName service n) = n := by
  rw [numberIn, digitsAtEnd_transformationName, Nat.ofDigitChars_ten_toDigits]

/-- Whether a triple says something of a transformation of a service by a property. -/
def Links (service property : String) (triple : Triple) : Prop :=
  triple.predicate = property ∧
    triple.subject = transformationName service (numberIn triple.subject)

instance (service property : String) : DecidablePred (Links service property) :=
  fun _ => inferInstanceAs (Decidable (_ ∧ _))

/-- The values that were written for the transformations of a service, in the order of writing. -/
def values (service property : String) (written : List Triple) : List String :=
  (written.filter (Links service property ·)).map Triple.object

/-- The value that a transformation has for one of its links. -/
def Finding.link (f : Finding) (property : String) : String :=
  if property = Vocabulary.fileIn then f.input
  else if property = Vocabulary.fileOut then f.output
  else f.service

theorem links_iff {service property other : String} {n : Nat} {value : String} :
    Links service property ⟨transformationName other n, property, value⟩ ↔ other = service := by
  simp [Links, transformationName_inj]

/-- A transformation has one triple for each of its links. -/
theorem filter_triples {property : String} (hproperty : property ∈ links) (service : String)
    (f : Finding) (earlier : List Finding) :
    (f.after earlier).triples.filter (Links service property ·) =
      if f.service = service then
        [⟨transformationName service (numberOf service earlier + 1), property, f.link property⟩]
      else [] := by
  have htype : Vocabulary.type ∉ links := by decide
  have hnodup : links.Nodup := by decide
  simp only [links, List.mem_cons, List.not_mem_nil, or_false, not_or] at hproperty htype
  simp only [links, List.nodup_cons, List.mem_cons, List.not_mem_nil, or_false, not_or,
    not_false_eq_true, List.nodup_nil, and_true] at hnodup
  obtain ⟨⟨hio, hip⟩, hop⟩ := hnodup
  by_cases hservice : f.service = service
  · subst hservice
    rcases hproperty with rfl | rfl | rfl <;>
      simp [Transformation.triples, Finding.after, Finding.link, Links, htype,
        hio, hip, hop, Ne.symm hio, Ne.symm hip, Ne.symm hop]
  · rw [if_neg hservice, List.filter_eq_nil_iff]
    intro triple htriple hlinks
    have hsubject := subject_of_mem htriple
    have hname := (of_decide_eq_true hlinks).2
    rw [hsubject] at hname
    exact hservice (transformationName_inj.mp hname).1

/-- The transformations of a service are numbered in the order in which they are found. -/
theorem filter_named {property : String} (hproperty : property ∈ links) (service : String)
    (found : List Finding) :
    ((named found).flatMap Transformation.triples).filter (Links service property ·) =
      (found.filter (·.service == service)).mapIdx fun n f =>
        ⟨transformationName service (n + 1), property, f.link property⟩ := by
  induction found using List.reverseRecOn with
  | nil => rfl
  | append_singleton found f ih =>
    rw [named_concat, List.flatMap_append, List.filter_append, ih, List.flatMap_singleton,
      filter_triples hproperty, List.filter_append]
    by_cases hservice : f.service = service
    · rw [if_pos hservice, List.filter_cons_of_pos (by simpa using hservice), List.filter_nil,
        List.mapIdx_concat, numberOf, List.countP_eq_length_filter]
    · rw [if_neg hservice, List.filter_cons_of_neg (by simpa using hservice), List.filter_nil,
        List.append_nil, List.append_nil]

/-! ## What a pass has written -/

/-- Triples that a pass may have written: those of transformations that were found one after
another, up to the last one that was accepted. -/
def IsWritten (written : List Triple) : Prop :=
  ∃ found, written <+: (named found).flatMap Transformation.triples

/-- A branch describes one transformation by each name: it has one type, one input, one output and
one service. -/
def Unambiguous (triples : List Triple) : Prop :=
  ∀ t ∈ triples, ∀ u ∈ triples, t.subject = u.subject → t.predicate = u.predicate →
    t.object = u.object

/-- Two passes have given the same numbers to the same transformations, as far as both have come. -/
def Agree (written other : List Triple) : Prop :=
  ∀ service, ∀ property ∈ [Vocabulary.fileIn, Vocabulary.fileOut],
    values service property written <+: values service property other ∨
      values service property other <+: values service property written

theorem Agree.refl (written : List Triple) : Agree written written :=
  fun _ _ _ => Or.inl (List.prefix_refl _)

variable {written other : List Triple} {triple : Triple} {service property value : String}
  {passes : List (List Triple)}

/-- The values of a service are in the order of its numbers. -/
theorem IsWritten.values_getElem? (hwritten : IsWritten written) (hproperty : property ∈ links)
    (n : Nat) : (values service property written)[n]? = some value ↔
      ⟨transformationName service (n + 1), property, value⟩ ∈ written := by
  obtain ⟨found, hstart⟩ := hwritten
  have hlinked := hstart.filter (Links service property ·)
  rw [filter_named hproperty] at hlinked
  -- each of the linked triples has the number of its place in its name
  have hplace : ∀ {m : Nat} {t : Triple}, (written.filter (Links service property ·))[m]? = some t →
      t.subject = transformationName service (m + 1) ∧ t.predicate = property := by
    intro m t hm
    obtain ⟨hlt, rfl⟩ := List.getElem?_eq_some_iff.mp hm
    have hsame := List.prefix_iff_getElem?.mp hlinked m hlt
    rw [List.getElem?_mapIdx, Option.map_eq_some_iff] at hsame
    obtain ⟨f, -, hf⟩ := hsame
    rw [← hf]
    exact ⟨rfl, rfl⟩
  rw [values, List.getElem?_map, Option.map_eq_some_iff]
  constructor
  · rintro ⟨t, ht, rfl⟩
    obtain ⟨hsubject, hpredicate⟩ := hplace ht
    rw [← hsubject, ← hpredicate]
    exact List.mem_of_mem_filter (List.mem_of_getElem? ht)
  · intro hmem
    have hlinks : Links service property ⟨transformationName service (n + 1), property, value⟩ :=
      links_iff.mpr rfl
    have hfiltered : _ ∈ written.filter (Links service property ·) :=
      List.mem_filter.mpr ⟨hmem, decide_eq_true hlinks⟩
    obtain ⟨m, hm⟩ := List.getElem?_of_mem hfiltered
    obtain ⟨hsubject, -⟩ := hplace hm
    obtain rfl : n = m := Nat.succ.inj (transformationName_inj.mp hsubject).2
    exact ⟨_, hm, rfl⟩

/-- All that a pass writes is about numbered transformations. -/
theorem IsWritten.shape (hwritten : IsWritten written) (htriple : triple ∈ written) :
    ∃ service n, triple.subject = transformationName service (n + 1) ∧
      ((triple.predicate = Vocabulary.type ∧ triple.object = Vocabulary.fileTransformation) ∨
      triple.predicate = Vocabulary.fileIn ∨ triple.predicate = Vocabulary.fileOut ∨
      triple.predicate = Vocabulary.performedBy ∧ triple.object = service) := by
  obtain ⟨found, hstart⟩ := hwritten
  obtain ⟨t, ht, htriple⟩ := List.mem_flatMap.mp (hstart.subset htriple)
  obtain ⟨k, hk, rfl⟩ := List.mem_mapIdx.mp ht
  refine ⟨_, _, subject_of_mem htriple, ?_⟩
  simp only [Transformation.triples, List.mem_cons, List.not_mem_nil, or_false] at htriple
  rcases htriple with rfl | rfl | rfl | rfl
  · exact Or.inl ⟨rfl, rfl⟩
  · exact Or.inr (Or.inl rfl)
  · exact Or.inr (Or.inr (Or.inl rfl))
  · exact Or.inr (Or.inr (Or.inr ⟨rfl, rfl⟩))

/-- The service of a transformation can be read off its name. -/
theorem IsWritten.service_eq (hwritten : IsWritten written) (hother : IsWritten other)
    {u : Triple} (ht : triple ∈ written) (hu : u ∈ other) (hsubject : triple.subject = u.subject)
    (hperformer : triple.predicate = Vocabulary.performedBy)
    (hperformed : u.predicate = Vocabulary.performedBy) : triple.object = u.object := by
  have hread : ∀ {w : List Triple} {t : Triple}, IsWritten w → t ∈ w →
      t.predicate = Vocabulary.performedBy → ∃ n, t.subject = transformationName t.object n := by
    intro w t hw ht hpredicate
    obtain ⟨service, n, hname, hshape⟩ := hw.shape ht
    rw [hpredicate] at hshape
    rcases hshape with ⟨hne, -⟩ | hne | hne | ⟨-, rfl⟩
    · exact absurd hne (by decide)
    · exact absurd hne (by decide)
    · exact absurd hne (by decide)
    · exact ⟨_, hname⟩
  obtain ⟨m, hm⟩ := hread hwritten ht hperformer
  obtain ⟨n, hn⟩ := hread hother hu hperformed
  exact (transformationName_inj.mp (hm.symm.trans (hsubject.trans hn))).1

/-- Some passes describe one transformation by each name if and only if they agree. -/
theorem unambiguous_iff (hpasses : ∀ w ∈ passes, IsWritten w) :
    Unambiguous passes.flatten ↔ ∀ w ∈ passes, ∀ v ∈ passes, Agree w v := by
  have hlinks : ∀ {property : String}, property ∈ [Vocabulary.fileIn, Vocabulary.fileOut] →
      property ∈ links := by
    intro property hproperty
    simp only [links, List.mem_cons, List.not_mem_nil, or_false] at hproperty ⊢
    rcases hproperty with rfl | rfl <;> simp
  constructor
  · intro hone w hw v hv service property hproperty
    refine prefix_or_prefix_iff.mpr fun n a b ha hb => ?_
    have hfirst := ((hpasses w hw).values_getElem? (hlinks hproperty) n).mp ha
    have hsecond := ((hpasses v hv).values_getElem? (hlinks hproperty) n).mp hb
    exact hone _ (List.mem_flatten_of_mem hw hfirst) _ (List.mem_flatten_of_mem hv hsecond) rfl rfl
  · rintro hagree ⟨name, property, a⟩ ht ⟨-, -, b⟩ hu rfl rfl
    obtain ⟨w, hw, ht⟩ := List.mem_flatten.mp ht
    obtain ⟨v, hv, hu⟩ := List.mem_flatten.mp hu
    have hvalue : property ∈ [Vocabulary.fileIn, Vocabulary.fileOut] → a = b := by
      intro hproperty
      obtain ⟨service, n, rfl, -⟩ := (hpasses w hw).shape ht
      exact prefix_or_prefix_iff.mp (hagree w hw v hv service property hproperty) n a b
        (((hpasses w hw).values_getElem? (hlinks hproperty) n).mpr ht)
        (((hpasses v hv).values_getElem? (hlinks hproperty) n).mpr hu)
    -- types are all the same and services are read off the names, so only files could differ
    obtain ⟨_, _, -, hshape⟩ := (hpasses w hw).shape ht
    obtain ⟨_, _, -, hother⟩ := (hpasses v hv).shape hu
    dsimp only at hshape hother
    rcases hshape with ⟨rfl, rfl⟩ | rfl | rfl | ⟨rfl, -⟩
    · rcases hother with ⟨-, rfl⟩ | hne | hne | ⟨hne, -⟩
      · rfl
      · exact absurd hne (by decide)
      · exact absurd hne (by decide)
      · exact absurd hne (by decide)
    · exact hvalue (by simp)
    · exact hvalue (by simp)
    · exact (hpasses w hw).service_eq (hpasses v hv) ht hu rfl rfl rfl

theorem IsWritten.unambiguous (hwritten : IsWritten written) : Unambiguous written := by
  have hone := (unambiguous_iff (List.forall_mem_singleton.mpr hwritten)).mpr
  rw [List.flatten_singleton] at hone
  refine hone fun w hw v hv => ?_
  rw [List.mem_singleton.mp hw, List.mem_singleton.mp hv]
  exact .refl _

/-! ## One pass -/

/-- The triple that a client was told to add, if it has accepted it. -/
def added? : Question × Bool → Option Triple
  | (.act _ (.write (.addTriple triple _)), true) => some triple
  | _ => none

theorem filterMap_describing (target : ClientId) (context : String) (found : List Transformation) :
    (found.flatMap (describing target context)).filterMap added? =
      found.flatMap Transformation.triples := by
  have hadded : ∀ triples : List Triple,
      (triples.map fun triple => (writing target context triple, true)).filterMap added? =
        triples := by
    intro triples
    rw [List.filterMap_map]
    exact List.filterMap_some
  induction found with
  | nil => rfl
  | cons t rest ih =>
    rw [List.flatMap_cons, List.filterMap_append, ih, List.flatMap_cons]
    exact congrArg (· ++ _) (hadded t.triples)

theorem Course.isWritten {target : ClientId} {context : String} {done : List Finding}
    {calls : List (Question × Bool)} (hcourse : Course target context done calls) :
    IsWritten (calls.filterMap added?) := by
  cases hcourse with
  | whole => exact ⟨done, (filterMap_describing target context _).symm ▸ List.prefix_refl _⟩
  | @broken f accepted rest refused htriples =>
    refine ⟨done ++ [f], rest.cons refused, ?_⟩
    have haccepted : (accepted.map fun triple =>
        (writing target context triple, true)).filterMap added? = accepted := by
      rw [List.filterMap_map]
      exact List.filterMap_some
    rw [List.filterMap_append, List.filterMap_append, filterMap_describing, haccepted,
      named_concat, List.flatMap_append, List.flatMap_singleton, htriples]
    simp [added?, writing]

/-- What a derivation has its target add. -/
theorem isWritten_run {S : Type} [Backend S] (o : Outside (Recorded S)) (target : ClientId)
    (context : String) (writes : List Write)
    (hother : ∀ working, (Backend.openWorking o.stores.stores).result = .ok working →
      working ≠ target) :
    ∃ calls, (run target context writes o).2.stores.calls target = o.stores.calls target ++ calls ∧
      IsWritten (calls.filterMap added?) := by
  have hends := ended_run o.stores o.log target context writes hother
  -- if the working repository does not open, the target is not called at all
  change Effect.EndsIn _ _ (run target context writes o) at hends
  generalize run target context writes o = done at hends
  cases hends with
  | returns h =>
    obtain ⟨-, found, calls, hcourse, hcalls, -⟩ := h
    exact ⟨calls, hcalls, hcourse.isWritten⟩
  | fails h =>
    rcases h with hcalls | ⟨_, _, found, calls, hcourse, hcalls, -⟩
    · exact ⟨[], by rw [hcalls, List.append_nil], [], List.nil_prefix⟩
    · exact ⟨calls, hcalls, hcourse.isWritten⟩

end Derivation

/-! ## The passes of a run -/

/-- Whether a connection is ready to derive transformations. -/
def Task.derives : Task → Bool
  | .ready (.derive ..) => true
  | _ => false

/-- The connection whose work a move carries out. -/
def Move.carries? : Move → Option Nat
  | .carryOut i => some i
  | _ => none

namespace Schedule

open GraphCommit.Derivation

variable {S : Type} [Backend S] {s t : Schedule (Recorded S)} {i : Nat}

omit [Backend S] in
/-- The triples that the client of a connection has added in between. -/
def addedSince (s t : Schedule (Recorded S)) (i : Nat) : List Triple :=
  ((t.core.stores.calls (s.connection i).client).drop
    (s.core.stores.calls (s.connection i).client).length).filterMap added?

/-- What the passes of a connection have added, one after another, while some moves are made. -/
def derivedIn (i : Nat) (s : Schedule (Recorded S)) : List Move → List (List Triple)
  | [] => []
  | m :: rest =>
    match s.next m with
    | none => []
    | some t =>
      if m.carries? = some i ∧ (s.tasks i).derives = true then
        s.addedSince t i :: derivedIn i t rest
      else derivedIn i t rest

/-- The moves clean nothing of a connection, so that it serves one branch. -/
def StaysInBranch (i : Nat) (s : Schedule (Recorded S)) : List Move → Prop
  | [] => True
  | m :: rest => ¬ s.Cleans i m ∧
    match s.next m with
    | none => True
    | some t => StaysInBranch i t rest

theorem staysInBranch {moves : List Move} (hmoves : ∀ m ∈ moves, ∀ u : Schedule (Recorded S),
    ¬ u.Cleans i m) : s.StaysInBranch i moves := by
  induction moves generalizing s with
  | nil => trivial
  | cons m rest ih =>
    refine ⟨hmoves m List.mem_cons_self s, ?_⟩
    cases s.next m with
    | none => trivial
    | some t => exact ih fun m hm => hmoves m (List.mem_cons_of_mem _ hm)

/-- Whatever happens from now on, the client of the working repository is not the client of a
connection. -/
def WorksApart (s : Schedule (Recorded S)) (i : Nat) : Prop :=
  ∀ t, Leads (fun _ _ => True) s t → ∀ working,
    (Backend.openWorking t.core.stores.stores).result = .ok working →
    working ≠ (s.connection i).client

theorem WorksApart.step {m : Move} (hapart : s.WorksApart i) (hi : i < s.size)
    (hstep : Step s m t) : t.WorksApart i := by
  intro u hrun working hopen
  rw [hstep.client_eq hi]
  exact hapart u ((Leads.refl.tail trivial hstep).trans hrun) working hopen

/-- A pass has written numbered transformations. -/
theorem isWritten_addedSince (hapart : s.WorksApart i) (hderives : (s.tasks i).derives = true)
    (hstep : Step s (.carryOut i) t) : IsWritten (s.addedSince t i) := by
  obtain ⟨context, writes, htask⟩ :
      ∃ context writes, s.tasks i = .ready (.derive context writes) := by
    cases htask : s.tasks i with
    | ready work =>
      cases work with
      | derive context writes => exact ⟨context, writes, rfl⟩
      | _ => simp [htask, Task.derives] at hderives
    | _ => simp [htask, Task.derives] at hderives
  obtain ⟨calls, hcalls, hwritten⟩ := isWritten_run s.connector.outside (s.connection i).client
    context writes (hapart s .refl)
  have hafter : t.core.stores.calls (s.connection i).client =
      s.core.stores.calls (s.connection i).client ++ calls := by
    change t.connector.outside.stores.calls _ = _
    rw [(hstep.carries htask).1]
    exact hcalls
  rw [addedSince, hafter, List.drop_left]
  exact hwritten

theorem isWritten_derivedIn (hi : i < s.size) (hapart : s.WorksApart i) (moves : List Move) :
    ∀ w ∈ s.derivedIn i moves, IsWritten w := by
  induction moves generalizing s with
  | nil => simp [derivedIn]
  | cons m rest ih =>
    rw [derivedIn]
    cases hnext : s.next m with
    | none => simp
    | some t =>
      have hstep := step_iff.mpr hnext
      have hrest := ih (Nat.lt_of_lt_of_le hi hstep.size_le) (hapart.step hi hstep)
      dsimp only
      split
      · next hpass =>
        cases m with
        | carryOut j =>
          obtain rfl : j = i := Option.some.inj hpass.1
          intro w hw
          rcases List.mem_cons.mp hw with rfl | hw
          · exact isWritten_addedSince hapart hpass.2 hstep
          · exact hrest w hw
        | _ => exact absurd hpass.1 (by simp [Move.carries?])
      · exact hrest

/-- A depot makes a new client of the working repository for each pass. -/
theorem Serves.worksApart [Engine] {s : Schedule (Recorded Depot)} (hs : s.Serves)
    (hi : i < s.size) : s.WorksApart i := by
  intro t hrun working hopen heq
  obtain ⟨hlt, hclient⟩ : i < t.size ∧ t.core.client i = (s.connection i).client :=
    hrun.client_eq hi
  have hserves := (hs.leads hrun).kept.serves i hlt
  obtain ⟨-, hnew⟩ := (Depot.addsApart_openAsWorking (s := (t.core.stores.stores, []))
    (r := Depot.working) (by decide) hserves.serving : Depot.Apart (fun _ => False) _ _ ∧ _)
  have hresponse : Backend.openWorking t.core.stores.stores = _ := Recorded.respond_map
  generalize Depot.openAsWorking Depot.working (t.core.stores.stores, []) = done at hnew hresponse
  have hresult : done.1.map ClientId.mk = .ok working :=
    (congrArg Response.result hresponse).symm.trans hopen
  rcases hdone : done.1 with fault | n
  · rw [hdone] at hresult
    contradiction
  · -- the new client comes after all others, and that of the connection is one of these
    rw [hdone] at hresult
    obtain rfl := Except.ok.inj hresult
    have hexist := hserves.exist
    rw [hclient, ← heq] at hexist
    exact Nat.lt_irrefl _ (Nat.lt_of_lt_of_le hexist (hnew n hdone).1)

/-! ## The whole statement -/

/-- How the transformations are named that a connection derives in some passes. -/
structure Names (passes : List (List Triple)) : Prop where
  /-- All that is derived is about transformations whose names tell a service and a number. -/
  shape : ∀ triple ∈ passes.flatten, ∃ service n,
    triple.subject = transformationName service (n + 1)
  /-- In each pass the numbers of a service are given out in order, from one. -/
  numbered : ∀ written ∈ passes, ∀ service n value, ∀ property ∈ links,
    ((values service property written)[n]? = some value ↔
      ⟨transformationName service (n + 1), property, value⟩ ∈ written)
  /-- A name never stands for transformations of two services. -/
  service : ∀ t ∈ passes.flatten, ∀ u ∈ passes.flatten, t.subject = u.subject →
    t.predicate = Vocabulary.performedBy → u.predicate = Vocabulary.performedBy →
    t.object = u.object
  /-- In one pass it stands for one transformation. -/
  pass : ∀ written ∈ passes, Unambiguous written
  /-- In all of them it does if and only if the passes agree. -/
  branch : Unambiguous passes.flatten ↔ ∀ written ∈ passes, ∀ other ∈ passes, Agree written other

/-- Whatever the working repository answers in the passes of a connection, names stand for one
transformation as long as the passes agree. -/
theorem names_by_number (hi : i < s.size) (hapart : s.WorksApart i) (moves : List Move) :
    Names (s.derivedIn i moves) := by
  have hwritten := isWritten_derivedIn hi hapart moves
  refine ⟨fun t ht => ?_, fun w hw service n value property hproperty => ?_,
    fun t ht u hu => ?_, fun w hw => (hwritten w hw).unambiguous, unambiguous_iff hwritten⟩
  · obtain ⟨w, hw, ht⟩ := List.mem_flatten.mp ht
    obtain ⟨service, n, hname, -⟩ := (hwritten w hw).shape ht
    exact ⟨service, n, hname⟩
  · exact (hwritten w hw).values_getElem? hproperty n
  · obtain ⟨w, hw, ht⟩ := List.mem_flatten.mp ht
    obtain ⟨v, hv, hu⟩ := List.mem_flatten.mp hu
    exact (hwritten w hw).service_eq (hwritten v hv) ht hu

end Schedule

/-! ## A branch with two passes -/

/-- Stores whose working repository answers all that it is asked by one row, which depends on how
often it was opened. -/
structure Varying where
  row : Nat → Row
  openings : Nat := 0

namespace Varying

instance : Backend Varying where
  durability _ _ := .onCommit
  act s _ _ := .ok () s
  select s _ _ := .ok [s.row s.openings] s
  ask s _ _ := .ok true s
  create s := .ok ⟨1⟩ s
  openWorking s := .ok ⟨0⟩ { s with openings := s.openings + 1 }
  shutDownWorking s := .ok () s

/-- One connection was made. -/
def connected (row : Nat → Row) : Schedule (Recorded Varying) :=
  (Schedule.freshWorking { stores := { row } }).after Connector.connect

theorem reachable_connected (row : Nat → Row) : (connected row).Reachable :=
  ⟨_, Schedule.isNew_freshWorking _, Schedule.Leads.refl.tail trivial .connect⟩

theorem worksApart_connected (row : Nat → Row) : (connected row).WorksApart 0 := by
  intro t _ working hopen
  obtain rfl : ⟨0⟩ = working := Except.ok.inj hopen
  have hclient : ((connected row).connection 0).client = ⟨1⟩ := rfl
  rw [hclient]
  decide

/-- The service transforms one format into another one. -/
def describing (input output : String) : Row :=
  Row.ofList [(Queries.serviceColumn, "urn:s"), (Queries.inputColumn, input),
    (Queries.outputClassColumn, "urn:C"), (Queries.outputFormatColumn, output)]

/-- The service is described in the same way all the time. -/
def steady : Schedule (Recorded Varying) := connected fun _ => describing "urn:png" "urn:pdf"

/-- What the first pass finds is not found any more by the second one. -/
def shifting : Schedule (Recorded Varying) :=
  connected fun n =>
    if n = 1 then describing "urn:png" "urn:pdf" else describing "urn:jpg" "urn:tif"

/-- A handle loads a document and is closed, and then another one. -/
def twoHandles : List Move :=
  [.getHandle 0, .beginAccess 0 (.write (.addData "urn:d" "urn:b:" "urn:g")), .carryOut 0,
    .invalidate ⟨0, 0⟩, .beginRelease 0, .carryOut 0, .endRelease 0,
    .getHandle 0, .beginAccess 0 (.write (.addData "urn:e" "urn:b:" "urn:g")), .carryOut 0,
    .invalidate ⟨0, 1⟩, .beginRelease 0, .carryOut 0, .endRelease 0]

end Varying

namespace Schedule

open GraphCommit.Derivation Varying

theorem names_by_number_steady :
    0 < steady.size ∧ steady.WorksApart 0 ∧ Names (steady.derivedIn 0 twoHandles) ∧
      (steady.derivedIn 0 twoHandles).length = 2 ∧
      Unambiguous (steady.derivedIn 0 twoHandles).flatten := by
  have hsize : 0 < steady.size := by decide
  have hderived : steady.derivedIn 0 twoHandles = List.replicate 2
      (Transformation.triples ⟨"urn:sTransformation1", "urn:s", "urn:png", "urn:pdf"⟩) := by
    decide +kernel
  have hnames := names_by_number hsize (worksApart_connected _) twoHandles
  refine ⟨hsize, worksApart_connected _, hnames, by rw [hderived]; rfl, hnames.branch.mpr ?_⟩
  rw [hderived]
  intro written hwritten other hother
  rw [List.eq_of_mem_replicate hwritten, List.eq_of_mem_replicate hother]
  exact .refl _

/-- The two passes of a branch give one name to two transformations. -/
theorem number_given_twice :
    ¬ ∀ (S : Type) [Backend S] (s : Schedule (Recorded S)) (i : Nat) (moves : List Move),
      s.Reachable → i < s.size → s.WorksApart i → s.StaysInBranch i moves →
      Unambiguous (s.derivedIn i moves).flatten := by
  intro hnames
  have hderived : shifting.derivedIn 0 twoHandles =
      [Transformation.triples ⟨"urn:sTransformation1", "urn:s", "urn:png", "urn:pdf"⟩,
       Transformation.triples ⟨"urn:sTransformation1", "urn:s", "urn:jpg", "urn:tif"⟩] := by
    decide +kernel
  have hstays : shifting.StaysInBranch 0 twoHandles :=
    staysInBranch (by simp [twoHandles, Cleans])
  have hone := hnames Varying shifting 0 twoHandles (reachable_connected _) (by decide)
    (worksApart_connected _) hstays
  rw [hderived] at hone
  have hsame := hone ⟨"urn:sTransformation1", Vocabulary.fileIn, "urn:png"⟩
    (by simp [Transformation.triples])
    ⟨"urn:sTransformation1", Vocabulary.fileIn, "urn:jpg"⟩ (by simp [Transformation.triples])
    rfl rfl
  exact absurd hsame (by decide)

end Schedule

end GraphCommit
