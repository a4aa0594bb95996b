import Mathlib.Data.List.Nodup
import GraphCommit.Lock.Queue

/-!
# What the queue grants

`q.Grants h m` says that the request of `h` for the mode `m` stands in the queue and is let through.
In a queue where no holder stands twice

* a request that is granted stays granted when other requests are taken out (`Grants.sublist`) or
  arrive (`Grants.enter`);
* an exclusive request is granted exactly at the head of the queue, and while it is, no other holder
  is granted anything (`grants_exclusive_iff`, `Grants.eq_of_exclusive`);
* the three ways to take a request out come to the same queue (`withdraw_eq`, `releaseRead_eq`).
-/

namespace GraphCommit

namespace Lock

namespace Queue

/-- The request of a holder stands in the queue and is let through. -/
def Grants (q : Queue) (h : Holder) (m : Mode) : Prop := ⟨h, m⟩ ∈ q ∧ q.free h m = true

/-- No holder stands in the queue twice. -/
def IsSingle (q : Queue) : Prop := (q.map Request.holder).Nodup

variable {q : Queue} {h k : Holder} {m n : Mode}

/-! ## Places in the queue -/

theorem IsSingle.tail {r : Request} (hq : IsSingle (r :: q)) : q.IsSingle :=
  (List.nodup_cons.mp hq).2

theorem IsSingle.holder_ne {r s : Request} (hq : IsSingle (r :: q)) (hs : s ∈ q) :
    s.holder ≠ r.holder := by
  intro heq
  exact (List.nodup_cons.mp hq).1 (heq ▸ List.mem_map_of_mem hs)

/-- A holder has one request, so its mode is determined. -/
theorem IsSingle.mode_unique (hq : q.IsSingle) (hm : ⟨h, m⟩ ∈ q) (hn : ⟨h, n⟩ ∈ q) : m = n := by
  have hr := List.inj_on_of_nodup_map hq hm hn rfl
  exact congrArg Request.mode hr

theorem modeOf?_eq_none (hq : q.modeOf? h = none) (hm : ⟨h, m⟩ ∈ q) : False := by
  have hnone : q.find? (fun r => r.holder == h) = none := by simpa [modeOf?] using hq
  have := List.find?_eq_none.mp hnone ⟨h, m⟩ hm
  simp at this

theorem mem_of_modeOf?_eq_some (hq : q.modeOf? h = some m) : ⟨h, m⟩ ∈ q := by
  obtain ⟨r, hfind, rfl⟩ := Option.map_eq_some_iff.mp hq
  have hholder : r.holder = h := by simpa using List.find?_some hfind
  have hmem := List.mem_of_find?_eq_some hfind
  obtain ⟨holder, mode⟩ := r
  subst hholder
  exact hmem

theorem not_holds (hq : q.holds h = false) {r : Request} (hr : r ∈ q) : r.holder ≠ h := by
  intro heq
  have : q.holds h = true := (holds_iff q h).mpr ⟨r, hr, heq⟩
  rw [hq] at this
  contradiction

/-! ## Exclusive requests -/

/-- An exclusive request is granted at the head of the queue and nowhere else. -/
theorem grants_exclusive_iff (hq : q.IsSingle) :
    q.Grants h .exclusive ↔ q.head? = some ⟨h, .exclusive⟩ := by
  cases q with
  | nil => simp [Grants]
  | cons r rest =>
    constructor
    · rintro ⟨hmem, hfree⟩
      have hr : r.holder = h := by simpa [free, freeToWrite] using hfree
      rcases List.mem_cons.mp hmem with heq | hrest
      · simp [heq]
      · exact absurd hr.symm (hq.holder_ne hrest)
    · intro hhead
      obtain rfl : r = ⟨h, .exclusive⟩ := by simpa using hhead
      simp [Grants, free, freeToWrite]

/-- While a holder writes, nobody else is granted anything. -/
theorem Grants.eq_of_exclusive (hq : q.IsSingle) (hh : q.Grants h .exclusive)
    (hk : q.Grants k m) : k = h := by
  have hhead := (grants_exclusive_iff hq).mp hh
  cases q with
  | nil => simp at hhead
  | cons r rest =>
    obtain rfl : r = ⟨h, .exclusive⟩ := by simpa using hhead
    have hfree := hk.2
    cases m with
    | shared =>
      by_contra hne
      simp [free, freeToRead, Ne.symm hne] at hfree
    | exclusive => exact (by simpa [free, freeToWrite] using hfree : h = k).symm

/-- A holder that may write may read as well. -/
theorem Grants.free_of_exclusive (hh : q.Grants h .exclusive) : q.free h m = true := by
  cases m with
  | exclusive => exact hh.2
  | shared =>
    have hfree := hh.2
    cases q with
    | nil => simp [free, freeToWrite] at hfree
    | cons r rest =>
      have hr : r.holder = h := by simpa [free, freeToWrite] using hfree
      simp [free, freeToRead, hr]

/-! ## What keeps a request granted -/

/-- A holder that may read may still read when requests of others are taken out. -/
theorem freeToRead_sublist {p : Queue} (hq : q.IsSingle) (hsub : List.Sublist p q)
    (hholds : p.holds h = true) (hreads : q.freeToRead h = true) : p.freeToRead h = true := by
  -- by induction on what was taken out of the queue: nothing before the holder gets in its way
  induction hsub with
  | slnil => simp [holds] at hholds
  | @cons p q r hsub ih =>
    obtain ⟨s, hs, heq⟩ := (holds_iff p h).mp hholds
    have hne : r.holder ≠ h := fun hr => hq.holder_ne (hsub.subset hs) (heq.trans hr.symm)
    by_cases hm : r.mode = .exclusive
    · simp [freeToRead, hne, hm] at hreads
    · exact ih hq.tail hholds (by simpa [freeToRead, hne, hm] using hreads)
  | @cons_cons p q r hsub ih =>
    by_cases hr : r.holder = h
    · simp [freeToRead, hr]
    · by_cases hm : r.mode = .exclusive
      · simp [freeToRead, hr, hm] at hreads
      · have hrest : holds p h = true := by simpa [holds, hr] using hholds
        simpa [freeToRead, hr, hm] using
          ih hq.tail hrest (by simpa [freeToRead, hr, hm] using hreads)

/-- Taking other requests out lets through whoever was let through. -/
theorem Grants.sublist {p : Queue} (hq : q.IsSingle) (hsub : List.Sublist p q)
    (hmem : ⟨h, m⟩ ∈ p) (hh : q.free h m = true) : p.Grants h m := by
  refine ⟨hmem, ?_⟩
  cases m with
  | shared => exact freeToRead_sublist hq hsub ((holds_iff p h).mpr ⟨_, hmem, rfl⟩) hh
  | exclusive =>
    cases hsub with
    | slnil => simp at hmem
    | @cons p q r hsub =>
      -- the head belongs to the holder, so it is not what was taken out
      have hr : r.holder = h := by simpa [free, freeToWrite] using hh
      exact absurd hr.symm (hq.holder_ne (hsub.subset hmem))
    | @cons_cons p q r hsub => simpa [free, freeToWrite] using hh

/-- A request at the end changes nothing for those that stand before it. -/
theorem free_enter (hk : ⟨k, n⟩ ∈ q) : (q.enter h m).free k n = q.free k n := by
  induction q with
  | nil => simp at hk
  | cons r rest ih =>
    cases n with
    | exclusive => rfl
    | shared =>
      by_cases hr : r.holder = k
      · simp [enter, free, freeToRead, hr]
      · have hrest : ⟨k, .shared⟩ ∈ rest := by
          rcases List.mem_cons.mp hk with heq | hrest
          · exact absurd (congrArg Request.holder heq).symm hr
          · exact hrest
        have := ih hrest
        simp only [enter, free] at this
        simp [enter, free, freeToRead, hr, this]

theorem Grants.enter (hh : q.Grants k n) : (q.enter h m).Grants k n :=
  ⟨List.mem_append_left _ hh.1, (free_enter hh.1).trans hh.2⟩

/-! ## Taking requests out -/

theorem releaseAll_sublist (q : Queue) (h : Holder) : List.Sublist (q.releaseAll h) q :=
  List.filter_sublist

theorem IsSingle.releaseAll (hq : q.IsSingle) (h : Holder) : IsSingle (q.releaseAll h) :=
  List.Nodup.sublist ((releaseAll_sublist q h).map _) hq

theorem IsSingle.enter (hq : q.IsSingle) (hnew : q.holds h = false) (m : Mode) :
    IsSingle (q.enter h m) := by
  rw [IsSingle, Queue.enter, List.map_append, List.nodup_append]
  refine ⟨hq, by simp, ?_⟩
  rintro a ha b hb rfl
  obtain ⟨r, hr, rfl⟩ := List.mem_map.mp ha
  exact not_holds hnew hr (by simpa using hb)

theorem releaseAll_eq_self (hq : ∀ r ∈ q, r.holder ≠ h) : q.releaseAll h = q :=
  List.filter_eq_self.mpr fun r hr => by simpa using hq r hr

/-- Withdrawing the first request of a holder withdraws its only one. -/
theorem withdraw_eq (hq : q.IsSingle) : q.withdraw h = q.releaseAll h := by
  induction q with
  | nil => rfl
  | cons r rest ih =>
    by_cases hr : r.holder = h
    · have hrest : releaseAll rest h = rest :=
        releaseAll_eq_self fun s hs => hr ▸ hq.holder_ne hs
      simpa [withdraw, releaseAll, hr] using hrest.symm
    · simpa [withdraw, releaseAll, hr] using ih hq.tail

/-- Releasing the read lock of a holder that has it leaves it nothing. -/
theorem releaseRead_eq (hq : q.IsSingle) (hmem : ⟨h, .shared⟩ ∈ q) :
    q.releaseRead h = q.releaseAll h := by
  induction q with
  | nil => rfl
  | cons r rest ih =>
    by_cases hr : r.holder = h
    · have hrest : releaseAll rest h = rest :=
        releaseAll_eq_self fun s hs => hr ▸ hq.holder_ne hs
      have hmode : r.mode = .shared := by
        rcases List.mem_cons.mp hmem with heq | hlater
        · exact (congrArg Request.mode heq).symm
        · exact absurd hr.symm (hq.holder_ne hlater)
      -- the request is at the head, and no later one is of the same holder
      simpa [releaseRead, releaseAll, hr, hmode] using hrest.symm
    · have hlater : ⟨h, .shared⟩ ∈ rest := by
        rcases List.mem_cons.mp hmem with heq | hlater
        · exact absurd (congrArg Request.holder heq).symm hr
        · exact hlater
      simpa [releaseRead, releaseAll, hr] using ih hq.tail hlater

end Queue

end Lock

end GraphCommit
