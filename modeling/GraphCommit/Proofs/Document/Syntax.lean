import GraphCommit.Document.Reading
import GraphCommit.Proofs.Document.FileUrl

/-!
# The syntax that a document is read in

A document is read in the syntax that the extension of its file stands for.  But the file and the
syntax are told from the reference in two ways: a path leads to the file that has this very name,
and a URL is decoded, while the extension is looked for in what is written before the first question
mark or number sign.

It is said exactly when the two go together (`syntax_of_location`).  They do not for a path with a
mark in its name, nor for a URL in which the extension is not spelled out, say because its dot is
percent-encoded.  What is said of paths holds whoever reads URLs, and what is said of URLs whenever
their reader leaves an extension alone that is spelled out (`KeepsExtensions`), as the one of this
library does (`offline_keepsExtensions`).
-/

namespace GraphCommit

namespace Text.LowerCase

theorem toNat_ofNat {n : Nat} {b : Char} (hb : b.toNat ≠ 0) (hn : Char.ofNat n = b) :
    b.toNat = n := by
  unfold Char.ofNat at hn
  by_cases hvalid : n.isValidChar
  · rw [dif_pos hvalid] at hn
    rw [← hn]
    rfl
  · rw [dif_neg hvalid] at hn
    exact absurd (congrArg Char.toNat hn).symm hb

/-- The letters that the extensions with a syntax of their own consist of. -/
def extensionLetters : List Char := ['l', 'n', 't', 'x']

theorem isAlpha_of_mem {b : Char} (hb : b ∈ extensionLetters) :
    b.isAlpha = true ∧ b.toNat ≠ 0 := by
  simp only [extensionLetters, List.mem_cons, List.not_mem_nil, or_false] at hb
  rcases hb with rfl | rfl | rfl | rfl <;> decide

/-- Only letters of ASCII become one of these letters in lower case. -/
theorem isAlpha_of_inText {before after : List Char} {c : Char}
    (hform : ∀ b ∈ inText before c after, b ∈ extensionLetters) : c.isAlpha = true := by
  have htable : (runs.all fun run => extensionLetters.all fun b =>
      !run.contains (b.toNat - run.shift).toNat ||
        (Char.ofNat (b.toNat - run.shift).toNat).isAlpha) = true := by
    decide +kernel
  unfold inText at hform
  split at hform
  · -- neither form of a sigma is one of them
    exfalso
    split at hform
    · exact absurd (hform 'ς' List.mem_cons_self) (by decide)
    · exact absurd (hform 'σ' List.mem_cons_self) (by decide)
  · unfold ofChar at hform
    split at hform
    · exact absurd (hform 'i' List.mem_cons_self) (by decide)
    · split at hform
      · next run hfind =>
        obtain ⟨b, hb⟩ : ∃ b, Char.ofNat (c.toNat + run.shift).toNat = b := ⟨_, rfl⟩
        have hmem : b ∈ extensionLetters := hform b (by rw [hb]; exact List.mem_cons_self)
        have hzero := (isAlpha_of_mem hmem).2
        have hnat := toNat_ofNat hzero hb
        have hcode : c.toNat = (b.toNat - run.shift).toNat := by omega
        have hcontains := List.find?_some (p := fun run : Run => run.contains c.toNat) hfind
        rw [hcode] at hcontains
        have hrun := List.all_eq_true.mp htable run (List.mem_of_find?_eq_some hfind)
        have halpha := List.all_eq_true.mp hrun b hmem
        rwa [hcontains, Bool.not_true, Bool.false_or, ← hcode, Char.ofNat_toNat] at halpha
      · exact (isAlpha_of_mem (hform c List.mem_cons_self)).1

theorem isAlpha_of_following {text : List Char} : ∀ before,
    (∀ b ∈ following before text, b ∈ extensionLetters) → ∀ c ∈ text, c.isAlpha = true := by
  induction text with
  | nil => simp
  | cons c rest ih =>
    intro before hform
    unfold following at hform
    have hfirst := isAlpha_of_inText fun b hb => hform b (List.mem_append_left _ hb)
    have hrest := ih (c :: before) fun b hb => hform b (List.mem_append_right _ hb)
    exact List.forall_mem_cons.mpr ⟨hfirst, hrest⟩

end Text.LowerCase

namespace Document

namespace Format

theorem afterLast?_eq_some_iff {c : Char} {text back : List Char} :
    afterLast? c text = some back ↔ c :: back <:+ text ∧ c ∉ back := by
  have hsplit : ∀ front behind, c ∉ behind →
      afterLast? c (front ++ c :: behind) = some behind := by
    intro front behind hbehind
    have hall : ∀ b ∈ behind.reverse, (b != c) = true := by
      intro b hb
      have hne : b ≠ c := fun h => hbehind (h ▸ List.mem_reverse.mp hb)
      simpa using hne
    unfold afterLast?
    rw [if_pos (by simp), List.reverse_append, List.reverse_cons, List.append_assoc,
      List.takeWhile_append_of_pos hall]
    simp
  constructor
  · intro hback
    have hmem : c ∈ text := by
      by_contra hnone
      unfold afterLast? at hback
      rw [if_neg (by simpa using hnone)] at hback
      contradiction
    -- the last occurrence is the first one from behind
    obtain ⟨behind, front, hreverse, hbehind⟩ :=
      List.eq_append_cons_of_mem (List.mem_reverse.mpr hmem)
    have htext : text = front.reverse ++ c :: behind.reverse := by
      rw [← List.reverse_reverse text, hreverse]
      simp
    have hnone : c ∉ behind.reverse := fun h => hbehind (List.mem_reverse.mp h)
    rw [htext, hsplit _ _ hnone] at hback
    obtain rfl := Option.some.inj hback
    exact ⟨⟨front.reverse, htext.symm⟩, hnone⟩
  · rintro ⟨⟨front, rfl⟩, hback⟩
    exact hsplit front back hback

/-- The last component of a path. -/
def component (path : List Char) : List Char := (afterLast? '/' path).getD path

/-- What stands behind the last dot in the last component of a path. -/
def extension (path : List Char) : Option (List Char) := afterLast? '.' (component path)

/-- The syntax of a file by its path. -/
def ofPath (path : List Char) : Format := ofName (component path)

theorem extension_eq_some_iff {path e : List Char} :
    extension path = some e ↔ '.' :: e <:+ path ∧ '.' ∉ e ∧ '/' ∉ e := by
  unfold extension
  rw [afterLast?_eq_some_iff]
  -- without a slash the whole path is its last component
  cases hlast : afterLast? '/' path with
  | none =>
    have hnone : '/' ∉ path := by
      intro hmem
      simp [afterLast?, hmem] at hlast
    have hcomponent : component path = path := by
      rw [component, hlast]
      rfl
    rw [hcomponent]
    constructor
    · rintro ⟨hsuffix, hdot⟩
      exact ⟨hsuffix, hdot, fun h => hnone (hsuffix.subset (List.mem_cons_of_mem _ h))⟩
    · rintro ⟨hsuffix, hdot, -⟩
      exact ⟨hsuffix, hdot⟩
  | some back =>
    obtain ⟨hback, hslash⟩ := afterLast?_eq_some_iff.mp hlast
    have hcomponent : component path = back := by
      rw [component, hlast]
      rfl
    rw [hcomponent]
    constructor
    · rintro ⟨hsuffix, hdot⟩
      refine ⟨?_, hdot, fun h => hslash (hsuffix.subset (List.mem_cons_of_mem _ h))⟩
      exact hsuffix.trans ((List.suffix_cons _ _).trans hback)
    · rintro ⟨hsuffix, hdot, hnone⟩
      refine ⟨?_, hdot⟩
      -- of two ends of one path the shorter one is an end of the longer one
      rcases List.suffix_or_suffix_of_suffix hsuffix hback with h | h
      · rcases List.suffix_cons_iff.mp h with heq | h
        · exact absurd (List.cons.inj heq).1 (by decide)
        · exact h
      · have hmem := h.subset List.mem_cons_self
        simp [hnone] at hmem

theorem ofPath_eq (path : List Char) :
    ofPath path = match extension path with
      | some e => ofExtension (String.ofList (Text.LowerCase.ofText e))
      | none => xml := rfl

/-- An extension that stands for a syntax consists of letters. -/
theorem isPlain_of_known {e : List Char}
    (hknown : ofExtension (String.ofList (Text.LowerCase.ofText e)) ≠ xml) :
    FileUrl.IsPlain e := by
  have hlower : ∀ b ∈ Text.LowerCase.ofText e, b ∈ Text.LowerCase.extensionLetters := by
    unfold ofExtension at hknown
    have hword : ∀ word : String, String.ofList (Text.LowerCase.ofText e) = word →
        Text.LowerCase.ofText e = word.toList := by
      rintro word rfl
      rw [String.toList_ofList]
    split at hknown
    · next h => simp [hword _ h, Text.LowerCase.extensionLetters]
    · split at hknown
      · next h => rcases h with h | h <;> simp [hword _ h, Text.LowerCase.extensionLetters]
      · contradiction
  refine ⟨?_, Text.LowerCase.isAlpha_of_following [] hlower⟩
  rintro rfl
  exact hknown (by decide)

end Format

open Format FileUrl

variable {reference path : String}

/-- Whether a reference is the URL of a file and no path. -/
def IsFileUrl (reference : String) : Prop := begins "file:" reference = true

/-- The reader of URLs leaves an extension alone: letters behind a dot, with which a URL ends where
its query or its fragment begins, are what the path ends with. -/
def KeepsExtensions [Fetcher] : Prop :=
  ∀ (url path : String) (e : List Char), IsFileUrl url → Fetcher.path? url = some path →
    IsPlain e → '.' :: e <:+ beforeMark url.toList → '.' :: e <:+ path.toList

theorem beforeMark_url (rest : List Char) :
    beforeMark ("file:".toList ++ rest) = "file:".toList ++ beforeMark rest := by
  unfold beforeMark
  exact List.takeWhile_append_of_pos (List.all_eq_true.mp (by decide))

theorem offline_keepsExtensions : @KeepsExtensions .offline := by
  intro url path e hurl hpath he hend
  obtain ⟨rest, hrest⟩ := List.isPrefixOf_iff_prefix.mp hurl
  have hread : FileUrl.path? rest = some path := by
    rw [← hpath]
    show _ = FileUrl.path? (url.toList.drop "file:".length)
    rw [← hrest, ← String.length_toList, List.drop_left]
  rw [← hrest, beforeMark_url] at hend
  obtain ⟨front, hend⟩ := hend
  refine he.path ?_ hread
  rcases List.append_eq_append_iff.mp hend with ⟨back, hfile, hmark⟩ | ⟨back, -, hmark⟩
  · -- there is no dot in the scheme
    cases back with
    | nil => exact ⟨[], hmark⟩
    | cons c back =>
      obtain ⟨rfl, -⟩ := List.cons.inj hmark
      have hmem : '.' ∈ "file:".toList := by
        rw [hfile]
        exact List.mem_append_right _ List.mem_cons_self
      exact absurd hmem (by decide)
  · exact ⟨back, hmark.symm⟩

section

variable [Fetcher]

theorem eq_of_plain (hplain : ¬ IsFileUrl reference)
    (hlocation : Location.of reference = .file path) : path = reference := by
  unfold IsFileUrl at hplain
  unfold Location.of at hlocation
  rw [if_neg hplain] at hlocation
  split at hlocation
  · contradiction
  · exact (Location.file.inj hlocation).symm

theorem path?_of_url (hurl : IsFileUrl reference)
    (hlocation : Location.of reference = .file path) : Fetcher.path? reference = some path := by
  unfold IsFileUrl at hurl
  unfold Location.of at hlocation
  rw [if_pos hurl] at hlocation
  split at hlocation
  · contradiction
  · cases hpath : Fetcher.path? reference with
    | none =>
      rw [hpath] at hlocation
      contradiction
    | some found =>
      rw [hpath] at hlocation
      exact congrArg some (Location.file.inj hlocation)

/-- A syntax that is recognized in a URL is told by the extension of its file. -/
theorem extension_of_url (hkeeps : KeepsExtensions) (hurl : IsFileUrl reference)
    (hlocation : Location.of reference = .file path) (hknown : ofReference reference ≠ .xml) :
    extension path.toList = extension (beforeMark reference.toList) := by
  have hpath := path?_of_url hurl hlocation
  have hcut : ofPath (beforeMark reference.toList) ≠ .xml := hknown
  rw [ofPath_eq] at hcut
  cases hext : extension (beforeMark reference.toList) with
  | none =>
    rw [hext] at hcut
    exact absurd rfl hcut
  | some e =>
    rw [hext] at hcut
    obtain ⟨hsuffix, hdot, hslash⟩ := extension_eq_some_iff.mp hext
    have hend := hkeeps reference path e hurl hpath (isPlain_of_known hcut) hsuffix
    exact extension_eq_some_iff.mpr ⟨hend, hdot, hslash⟩

/-- How the syntax that a document is read in goes with the file that its reference leads to. -/
structure SyntaxOf (reference path : String) : Prop where
  /-- A path is taken as it is, but its syntax is told by what stands before the first mark. -/
  plain : ¬ IsFileUrl reference → path = reference ∧
    (ofReference reference = ofPath path.toList ↔
      ofPath (beforeMark path.toList) = ofPath path.toList)
  /-- So the syntax of a path without marks is that of its file. -/
  unmarked : ¬ IsFileUrl reference → '?' ∉ path.toList → '#' ∉ path.toList →
    ofReference reference = ofPath path.toList
  /-- A URL is decoded, but its syntax is told by what is written.  The two go together exactly if
  the file is read as RDF/XML anyway, or its extension is spelled out at the end of the URL. -/
  url : KeepsExtensions → IsFileUrl reference →
    (ofReference reference = ofPath path.toList ↔
      ofPath path.toList = .xml ∨
        extension (beforeMark reference.toList) = extension path.toList)
  /-- So the syntax of a URL is that of its file, unless it is not recognized. -/
  recognized : KeepsExtensions → IsFileUrl reference → ofReference reference ≠ .xml →
    ofReference reference = ofPath path.toList
  /-- Where the two go together, a document says what its file says in its own syntax. -/
  read : ofReference reference = ofPath path.toList → ∀ (files : Files) (base : String)
    (bytes : List UInt8) (contents : Turtle.Contents), files.read path = .ok bytes →
    (Document.read files reference base = .ok contents ↔
      parse? (ofPath path.toList) base bytes = some contents)

/-- What is found at the path of a reference is read in the syntax of the reference. -/
theorem read_eq_ok_iff {files : Files} {base : String} {bytes : List UInt8}
    {contents : Turtle.Contents} (hlocation : Location.of reference = .file path)
    (hbytes : files.read path = .ok bytes) :
    Document.read files reference base = .ok contents ↔
      parse? (ofReference reference) base bytes = some contents := by
  have hfetch : fetch files reference = .ok bytes := by
    unfold fetch
    rw [hlocation]
    dsimp only
    rw [hbytes]
    rfl
  unfold Document.read
  rw [hfetch]
  dsimp only [bind, Except.bind]
  cases parse? (ofReference reference) base bytes with
  | none => simp
  | some found => simp [pure, Except.pure]

/-- A local file is found by a reference. -/
theorem syntax_of_location (hlocation : Location.of reference = .file path) :
    SyntaxOf reference path where
  plain := by
    intro hplain
    obtain rfl := eq_of_plain hplain hlocation
    exact ⟨rfl, Iff.rfl⟩
  unmarked := by
    intro hplain hquery hfragment
    obtain rfl := eq_of_plain hplain hlocation
    have hall : beforeMark path.toList = path.toList := by
      apply List.takeWhile_eq_self_iff.mpr
      intro c hc
      have hne : c ≠ '?' ∧ c ≠ '#' :=
        ⟨fun h => hquery (h ▸ hc), fun h => hfragment (h ▸ hc)⟩
      simp [hne]
    exact congrArg ofPath hall
  url := by
    intro hkeeps hurl
    constructor
    · intro hagree
      by_cases hxml : ofPath path.toList = .xml
      · exact Or.inl hxml
      · exact Or.inr (extension_of_url hkeeps hurl hlocation (hagree ▸ hxml)).symm
    · rintro (hxml | hext)
      · by_contra hne
        rw [hxml] at hne
        have hext := extension_of_url hkeeps hurl hlocation hne
        rw [ofPath_eq, hext] at hxml
        exact hne hxml
      · show ofPath (beforeMark reference.toList) = ofPath path.toList
        rw [ofPath_eq, ofPath_eq, hext]
  recognized := by
    intro hkeeps hurl hknown
    show ofPath (beforeMark reference.toList) = ofPath path.toList
    rw [ofPath_eq, ofPath_eq, extension_of_url hkeeps hurl hlocation hknown]
  read := by
    intro hagree files base bytes contents hbytes
    rw [read_eq_ok_iff hlocation hbytes, hagree]

end

section

attribute [local instance] Fetcher.offline

theorem syntax_of_turtle : Location.of "file:///a%20b.TTL?x" = .file "/a b.TTL" ∧
    KeepsExtensions ∧ SyntaxOf "file:///a%20b.TTL?x" "/a b.TTL" := by
  have hlocation : Location.of "file:///a%20b.TTL?x" = .file "/a b.TTL" := by decide +kernel
  exact ⟨hlocation, offline_keepsExtensions, syntax_of_location hlocation⟩

/-- A path with a mark is read as what it is called before it. -/
theorem syntax_differs : ¬ ∀ reference path : String, Location.of reference = .file path →
    ofReference reference = ofPath path.toList := by
  intro hclaim
  have hsame := hclaim "/a#b.ttl" "/a#b.ttl" (by decide)
  exact absurd hsame (by decide)

/-- The dot of the extension may be percent-encoded. -/
example : Location.of "file:///a%2Ettl" = .file "/a.ttl" ∧
    ofReference "file:///a%2Ettl" = .xml ∧ ofPath "/a.ttl".toList = .turtle := by
  decide +kernel

end

end Document

end GraphCommit
