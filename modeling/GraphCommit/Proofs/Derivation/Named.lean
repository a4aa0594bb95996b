import Mathlib.Data.List.Induction
import GraphCommit.Derivation.Run
import GraphCommit.Proofs.Files

/-!
# Names of transformations

A pass finds transformations one after another and names each after its service and its number among
the transformations of this service (`named`).  Service and number can be read off the name, so no
two transformations of a pass have the same one (`nodup_names`).  Those of one service are numbered
from one without a gap (`names_of_service`).
-/

namespace GraphCommit.Derivation

/-- What a pass finds: a service with an input format and an output format. -/
structure Finding where
  service : String
  input : String
  output : String
  deriving DecidableEq, Repr

/-! ## Service and number in a name -/

/-- The digits at the end of a text. -/
def digitsAtEnd (text : String) : List Char := (text.toList.reverse.takeWhile Char.isDigit).reverse

theorem digitsAtEnd_transformationName (service : String) (n : Nat) :
    digitsAtEnd (transformationName service n) = Nat.toDigits 10 n := by
  have hdigits : ∀ c ∈ (Nat.toDigits 10 n).reverse, c.isDigit = true := fun c hc =>
    Nat.isDigit_of_mem_toDigits (by decide) (by decide) (List.mem_reverse.mp hc)
  -- the word in front of the number ends in a letter
  have hword : ("Transformation".toList.reverse ++ service.toList.reverse).takeWhile Char.isDigit =
      [] := rfl
  rw [digitsAtEnd, transformationName, Nat.toString_eq_ofList_toDigits]
  simp only [String.toList_append, String.toList_ofList, List.reverse_append]
  rw [List.takeWhile_append_of_pos hdigits, hword, List.append_nil, List.reverse_reverse]

theorem transformationName_inj {s t : String} {m n : Nat} :
    transformationName s m = transformationName t n ↔ s = t ∧ m = n := by
  constructor
  · intro hname
    have hdigits : Nat.toDigits 10 m = Nat.toDigits 10 n := by
      rw [← digitsAtEnd_transformationName s m, hname, digitsAtEnd_transformationName]
    obtain rfl : m = n := by
      rw [← Nat.ofDigitChars_ten_toDigits (n := m), hdigits, Nat.ofDigitChars_ten_toDigits]
    refine ⟨?_, rfl⟩
    have hlists := congrArg String.toList hname
    simp only [transformationName, String.toList_append, List.append_assoc] at hlists
    exact String.toList_injective (List.append_cancel_right hlists)
  · rintro ⟨rfl, rfl⟩
    rfl

/-! ## Numbers -/

theorem Counter.count_next (c : Counter) (service other : String) :
    (c.next service).2.count other =
      if other = service then c.count service + 1 else c.count other := by
  simp only [Counter.next, Counter.count, lookup_replace, beq_iff_eq]
  split <;> rfl

/-- How many transformations of a service there are among some. -/
def numberOf (service : String) (found : List Finding) : Nat :=
  found.countP (·.service == service)

@[simp] theorem numberOf_concat (service : String) (found : List Finding) (f : Finding) :
    numberOf service (found ++ [f]) =
      if f.service = service then numberOf service found + 1 else numberOf service found := by
  simp only [numberOf, List.countP_append, List.countP_singleton, beq_iff_eq]
  split <;> rfl

/-- A counter that has numbered some transformations gives one that is found after them the next
number of its service. -/
theorem Counter.next_numbers {c : Counter} {earlier : List Finding}
    (hcounts : ∀ service, c.count service = numberOf service earlier) (f : Finding) :
    (c.next f.service).1 = numberOf f.service earlier + 1 ∧
      ∀ service, (c.next f.service).2.count service = numberOf service (earlier ++ [f]) := by
  refine ⟨congrArg (· + 1) (hcounts f.service), fun service => ?_⟩
  rw [Counter.count_next, numberOf_concat, hcounts, hcounts]
  split
  · next heq => rw [if_pos heq.symm, heq]
  · next hne => rw [if_neg (Ne.symm hne)]

/-- While no more transformations were found than there are numbers of 32 bits, the next number is
one of these. -/
theorem Counter.next_le_limit {c : Counter} {earlier : List Finding}
    (hcounts : ∀ service, c.count service = numberOf service earlier) (f : Finding)
    (hfew : earlier.length < Counter.limit) : (c.next f.service).1 ≤ Counter.limit := by
  have hnumber : numberOf f.service earlier ≤ earlier.length := List.countP_le_length
  rw [(Counter.next_numbers hcounts f).1]
  omega

/-- The transformation that is found after others. -/
def Finding.after (earlier : List Finding) (f : Finding) : Transformation where
  name := transformationName f.service (numberOf f.service earlier + 1)
  service := f.service
  input := f.input
  output := f.output

/-- Transformations in the order in which they are found, with their names. -/
def named (found : List Finding) : List Transformation :=
  found.mapIdx fun i f => f.after (found.take i)

@[simp] theorem named_nil : named [] = [] := rfl

@[simp] theorem named_concat (found : List Finding) (f : Finding) :
    named (found ++ [f]) = named found ++ [f.after found] := by
  have hsame : found.mapIdx (fun i f' => f'.after ((found ++ [f]).take i)) = named found :=
    List.mapIdx_eq_mapIdx_iff.mpr fun i hi => by
      rw [List.take_append_of_le_length (Nat.le_of_lt hi)]
  rw [named, List.mapIdx_concat, hsame, List.take_left']
  rfl

theorem exists_of_mem_named {found : List Finding} {t : Transformation} (ht : t ∈ named found) :
    ∃ n, n ≤ numberOf t.service found ∧ t.name = transformationName t.service n := by
  induction found using List.reverseRecOn with
  | nil => contradiction
  | append_singleton found f ih =>
    rw [named_concat, List.mem_append, List.mem_singleton] at ht
    rcases ht with hold | rfl
    · obtain ⟨n, hn, hname⟩ := ih hold
      refine ⟨n, ?_, hname⟩
      rw [numberOf_concat]
      split
      · exact Nat.le_succ_of_le hn
      · exact hn
    · refine ⟨numberOf f.service found + 1, ?_, rfl⟩
      simp [Finding.after]

/-- A name is given once. -/
theorem nodup_names (found : List Finding) : ((named found).map Transformation.name).Nodup := by
  induction found using List.reverseRecOn with
  | nil => exact List.nodup_nil
  | append_singleton found f ih =>
    rw [named_concat, List.map_append, List.map_singleton, List.nodup_append]
    refine ⟨ih, by simp, ?_⟩
    intro name hname other hother heq
    obtain ⟨t, ht, rfl⟩ := List.mem_map.mp hname
    obtain rfl : other = (f.after found).name := by simpa using hother
    obtain ⟨n, hn, hnamed⟩ := exists_of_mem_named ht
    obtain ⟨hservice, hnumber⟩ := transformationName_inj.mp (hnamed.symm.trans heq)
    rw [hservice] at hn
    omega

/-- The names of a service are numbered from one, and no number is left out. -/
theorem names_of_service (service : String) (found : List Finding) :
    ((named found).filter (·.service == service)).map Transformation.name =
      (List.range (numberOf service found)).map fun n => transformationName service (n + 1) := by
  induction found using List.reverseRecOn with
  | nil => rfl
  | append_singleton found f ih =>
    rw [named_concat, List.filter_append, List.map_append, ih, numberOf_concat]
    by_cases hservice : f.service = service
    · subst hservice
      rw [if_pos rfl, List.range_succ, List.map_append]
      simp [Finding.after]
    · rw [if_neg hservice]
      simp [Finding.after, hservice]

end GraphCommit.Derivation
