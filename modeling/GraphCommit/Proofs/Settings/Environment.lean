import GraphCommit.Proofs.Effect
import GraphCommit.Settings.Environment
import Mathlib.Data.List.Basic

/-!
# What an environment says

Five variables are read, and each of them has a say in one field only.  What a variable says of its
field is put down here apart from how it is read (`Denotes`): a number may have a plus sign and
leading zeros, a word for yes or no may be written in any case, and white space around either does
not count.

Settings come out of an environment exactly if the environment says so field by field and they pass
the checks.  So an environment in which accepted settings were spelled out gives them back
(`environment_exact`).
-/

namespace GraphCommit

namespace Text

/-- A text without white space has nothing to trim. -/
theorem trim_eq_self {text : List Char} (htext : ∀ c ∈ text, isWhiteSpace c = false) :
    trim text = text := by
  have hfront : ∀ t : List Char, (∀ c ∈ t, isWhiteSpace c = false) →
      t.dropWhile isWhiteSpace = t := by
    intro t ht
    cases t with
    | nil => rfl
    | cons c rest => rw [List.dropWhile_cons_of_neg (by simp [ht c List.mem_cons_self])]
  rw [trim, hfront text htext, hfront text.reverse, List.reverse_reverse]
  intro c hc
  exact htext c (List.mem_reverse.mp hc)

theorem isWhiteSpace_of_isDigit {c : Char} (hc : c.isDigit = true) : isWhiteSpace c = false := by
  simp only [Char.isDigit, Bool.and_eq_true, decide_eq_true_eq, ge_iff_le,
    UInt32.le_iff_toNat_le] at hc
  have hbounds : 48 ≤ c.toNat ∧ c.toNat ≤ 57 := hc
  simp [isWhiteSpace, Ranges.contains, whiteSpace]
  omega

/-! ## Numbers -/

/-- A row of digits with its value; leading zeros make no difference. -/
structure IsDecimal (digits : List Char) (n : Nat) : Prop where
  nonempty : digits ≠ []
  isDigit : ∀ c ∈ digits, c.isDigit = true
  value : Nat.ofDigitChars 10 digits 0 = n

namespace Number

/-- More digits never make a number smaller. -/
theorem le_ofDigitChars (n : Nat) (digits : List Char) : n ≤ Nat.ofDigitChars 10 digits n := by
  induction digits generalizing n with
  | nil => exact Nat.le_refl n
  | cons c rest ih =>
    rw [Nat.ofDigitChars_cons]
    have hrest := ih (10 * n + (c.toNat - '0'.toNat))
    omega

theorem digits_eq_ok_iff {bound n m : Nat} {text : List Char} (hn : n < bound) :
    digits bound n text = .ok m ↔
      (∀ c ∈ text, c.isDigit = true) ∧ Nat.ofDigitChars 10 text n = m ∧ m < bound := by
  induction text generalizing n with
  | nil =>
    simp only [digits, Except.ok.injEq, List.not_mem_nil, false_implies, implies_true, true_and]
    constructor
    · rintro rfl
      exact ⟨rfl, hn⟩
    · exact fun h => h.1
  | cons c rest ih =>
    simp only [digits, List.forall_mem_cons, Nat.ofDigitChars_cons]
    have hzero : '0'.toNat = 48 := rfl
    by_cases hc : c.isDigit = true
    · by_cases hsmall : 10 * n + (c.toNat - 48) < bound
      · simp only [hc, hsmall, if_true, true_and, hzero, ih hsmall]
      · -- the value only grows from here
        have hgrows := le_ofDigitChars (10 * n + (c.toNat - 48)) rest
        simp only [hc, hsmall, if_true, if_false, hzero, true_and, reduceCtorEq, false_iff, not_and]
        rintro - rfl
        omega
    · simp [hc]

theorem read_eq_ok_iff {bound m : Nat} {text : List Char} (hbound : 0 < bound) :
    read bound text = .ok m ↔
      ∃ digits, (text = digits ∨ text = '+' :: digits) ∧ IsDecimal digits m ∧ m < bound := by
  have hplus : ¬ '+'.isDigit = true := by decide
  constructor
  · intro hread
    unfold read at hread
    split at hread
    · contradiction
    · contradiction
    · next rest hrest =>
      obtain ⟨hdigits, hvalue, hm⟩ := (digits_eq_ok_iff hbound).mp hread
      exact ⟨rest, Or.inr rfl, ⟨by rintro rfl; exact hrest rfl, hdigits, hvalue⟩, hm⟩
    · next hnil _ _ =>
      obtain ⟨hdigits, hvalue, hm⟩ := (digits_eq_ok_iff hbound).mp hread
      exact ⟨text, Or.inl rfl, ⟨hnil, hdigits, hvalue⟩, hm⟩
  · rintro ⟨digits, htext, hdecimal, hm⟩
    have hread := (digits_eq_ok_iff hbound).mpr ⟨hdecimal.isDigit, hdecimal.value, hm⟩
    obtain ⟨c, rest, rfl⟩ := List.exists_cons_of_ne_nil hdecimal.nonempty
    rcases htext with rfl | rfl
    · -- digits have no sign, so none is cut off
      have hc : c ≠ '+' := by
        rintro rfl
        exact hplus (hdecimal.isDigit '+' List.mem_cons_self)
      unfold read
      split
      · contradiction
      · next h => exact absurd (List.cons.inj h).1 hc
      · next h => exact absurd (List.cons.inj h).1 hc
      · exact hread
    · exact hread

end Number

end Text

namespace Settings

variable {assigned other : String → Option String} {files : Files} {s t : Settings} {text : String}

/-! ## What a variable says -/

/-- Words for yes and no, once white space is off and letters are in lower case. -/
def SaysBoolean (text : String) (b : Bool) : Prop :=
  ∃ word ∈ if b then ["true", "1", "yes", "on"] else ["false", "0", "no", "off"],
    Text.LowerCase.ofText (Text.trim text.toList) = word.toList

/-- A number of 64 bits in decimal digits, perhaps with a plus sign before them. -/
def SaysNumber (text : String) (n : Nat) : Prop :=
  n < Nat.pow 2 64 ∧ ∃ digits, Text.IsDecimal digits n ∧
    (Text.trim text.toList = digits ∨ Text.trim text.toList = '+' :: digits)

theorem readBoolean_eq_ok_iff (name : String) {b : Bool} :
    readBoolean name text = .ok b ↔ SaysBoolean text b := by
  have hword : ∀ word : String, Text.LowerCase.ofText (Text.trim text.toList) = word.toList ↔
      folded text = word := by
    intro word
    rw [folded, String.ext_iff, String.toList_ofList]
  simp only [SaysBoolean, hword, readBoolean]
  generalize folded text = said
  constructor
  · intro hread
    refine ⟨said, ?_, rfl⟩
    split at hread
    · next b' hlookup =>
      obtain rfl := Except.ok.inj hread
      have hmem : (said, b') ∈ booleanWords := by
        obtain ⟨front, back, hsplit, -⟩ := List.lookup_eq_some_iff.mp hlookup
        simp [hsplit]
      revert hmem
      simp only [booleanWords]
      cases b' <;> simp
    · contradiction
  · rintro ⟨word, hmem, rfl⟩
    cases b <;> simp at hmem <;> rcases hmem with rfl | rfl | rfl | rfl <;> rfl

theorem readMilliseconds_eq_ok_iff (name : String) {n : Nat} :
    readMilliseconds name text = .ok n ↔ SaysNumber text n := by
  have hread : Text.Number.read (Nat.pow 2 64) (Text.trim text.toList) = .ok n ↔ _ :=
    Text.Number.read_eq_ok_iff (by decide)
  have hsame : readMilliseconds name text = .ok n ↔
      Text.Number.read (Nat.pow 2 64) (Text.trim text.toList) = .ok n := by
    unfold readMilliseconds
    split <;> simp_all
  rw [hsame, hread]
  constructor
  · rintro ⟨digits, htext, hdecimal, hn⟩
    exact ⟨hn, digits, hdecimal, htext⟩
  · rintro ⟨hn, digits, hdecimal, htext⟩
    exact ⟨digits, htext, hdecimal, hn⟩

/-- What a field is: the default if its variable is not set, and else what the variable says. -/
def FieldOf {α : Type} (default : α) (Says : String → α → Prop) (set? : Option String)
    (value : α) : Prop :=
  match set? with
  | none => value = default
  | some text => Says text value

/-- Variables that are set alike leave no doubt about a field. -/
theorem FieldOf.unique {α : Type} {default : α} {Says : String → α → Prop}
    {set? set'? : Option String} {value value' : α}
    (hvalue : FieldOf default Says set? value) (hvalue' : FieldOf default Says set'? value')
    (hset : set? = set'?) (hunique : ∀ {text a b}, Says text a → Says text b → a = b) :
    value = value' := by
  subst hset
  cases set? with
  | none => exact Eq.trans hvalue (Eq.symm hvalue')
  | some text => exact hunique hvalue hvalue'

/-- An empty directory is none. -/
def SaysDirectory (text : String) (dir : Option String) : Prop :=
  dir = if text = "" then none else some text

def SaysName (text name : String) : Prop := name = text

def SaysTimeout (text : String) (timeout : Option Nat) : Prop :=
  ∃ n, timeout = some n ∧ SaysNumber text n

/-- An environment says this of every field of the settings. -/
structure Denotes (assigned : String → Option String) (s : Settings) : Prop where
  dataDir : FieldOf none SaysDirectory (assigned dataVariable) s.dataDir
  repository : FieldOf "main" SaysName (assigned repositoryVariable) s.repository
  workingRepository : FieldOf "working" SaysName (assigned workingVariable) s.workingRepository
  derive : FieldOf true SaysBoolean (assigned deriveVariable) s.derive
  lockTimeout : FieldOf none SaysTimeout (assigned lockTimeoutVariable) s.lockTimeout

theorem SaysDirectory.unique {a b : Option String} (ha : SaysDirectory text a)
    (hb : SaysDirectory text b) : a = b := ha.trans hb.symm

theorem SaysName.unique {a b : String} (ha : SaysName text a) (hb : SaysName text b) : a = b :=
  ha.trans hb.symm

theorem SaysBoolean.unique {a b : Bool} (ha : SaysBoolean text a) (hb : SaysBoolean text b) :
    a = b := by
  rw [← readBoolean_eq_ok_iff text] at ha hb
  exact Except.ok.inj (ha.symm.trans hb)

theorem SaysTimeout.unique {a b : Option Nat} (ha : SaysTimeout text a) (hb : SaysTimeout text b) :
    a = b := by
  obtain ⟨m, rfl, hm⟩ := ha
  obtain ⟨n, rfl, hn⟩ := hb
  rw [← readMilliseconds_eq_ok_iff text] at hm hn
  exact congrArg some (Except.ok.inj (hm.symm.trans hn))

/-! ## Reading an environment -/

theorem fieldOf_directory_iff {set? dir : Option String} :
    FieldOf none SaysDirectory set? dir ↔ dir = set?.filter fun dir => !dir.isEmpty := by
  cases set? with
  | none => exact Iff.rfl
  | some text =>
    simp only [FieldOf, SaysDirectory, Option.filter_some]
    by_cases htext : text = "" <;> simp [htext]

theorem fieldOf_name_iff {default name : String} {set? : Option String} :
    FieldOf default SaysName set? name ↔ name = set?.getD default := by
  cases set? <;> exact Iff.rfl

/-- The two fields whose variables can be refused. -/
def derive? (assigned : String → Option String) : Except Error Bool :=
  match assigned deriveVariable with
  | some value => readBoolean deriveVariable value
  | none => .ok true

def lockTimeout? (assigned : String → Option String) : Except Error (Option Nat) :=
  match assigned lockTimeoutVariable with
  | some value => (readMilliseconds lockTimeoutVariable value).map some
  | none => .ok none

theorem derive?_eq_ok_iff {b : Bool} :
    derive? assigned = .ok b ↔ FieldOf true SaysBoolean (assigned deriveVariable) b := by
  unfold derive?
  cases assigned deriveVariable with
  | none => simp [FieldOf, eq_comm]
  | some value => exact readBoolean_eq_ok_iff deriveVariable

theorem lockTimeout?_eq_ok_iff {timeout : Option Nat} :
    lockTimeout? assigned = .ok timeout ↔
      FieldOf none SaysTimeout (assigned lockTimeoutVariable) timeout := by
  unfold lockTimeout?
  cases assigned lockTimeoutVariable with
  | none => simp [FieldOf, eq_comm]
  | some value =>
    simp only [FieldOf, SaysTimeout, ← readMilliseconds_eq_ok_iff lockTimeoutVariable]
    cases readMilliseconds lockTimeoutVariable value <;> simp [Except.map, eq_comm]

/-- The settings with these two fields and what the other variables say. -/
def named (assigned : String → Option String) (derive : Bool) (lockTimeout : Option Nat) :
    Settings where
  dataDir := (assigned dataVariable).filter fun dir => !dir.isEmpty
  repository := (assigned repositoryVariable).getD "main"
  workingRepository := (assigned workingVariable).getD "working"
  derive
  lockTimeout

theorem ofEnvironment_eq (files : Files) (assigned : String → Option String) :
    ofEnvironment files assigned = (do
      let derive ← derive? assigned
      let lockTimeout ← lockTimeout? assigned
      validate files (named assigned derive lockTimeout)) := by
  unfold ofEnvironment derive? lockTimeout?
  cases assigned deriveVariable <;> cases assigned lockTimeoutVariable <;> rfl

/-- What is read are the settings of which the environment speaks, if they pass the checks. -/
theorem ofEnvironment_eq_ok_iff :
    ofEnvironment files assigned = .ok s ↔ Denotes assigned s ∧ s.validate files = .ok s := by
  rw [ofEnvironment_eq]
  constructor
  · intro hread
    obtain ⟨b, hderive, hread⟩ := Effect.exists_of_bind_eq_ok hread
    obtain ⟨timeout, htimeout, hvalid⟩ := Effect.exists_of_bind_eq_ok hread
    obtain ⟨rfl, -⟩ := validate_eq_ok hvalid
    refine ⟨⟨?_, ?_, ?_, derive?_eq_ok_iff.mp hderive, lockTimeout?_eq_ok_iff.mp htimeout⟩, hvalid⟩
    · exact fieldOf_directory_iff.mpr rfl
    · exact fieldOf_name_iff.mpr rfl
    · exact fieldOf_name_iff.mpr rfl
  · rintro ⟨hdenotes, hvalid⟩
    have hnamed : named assigned s.derive s.lockTimeout = s := by
      rw [named, ← fieldOf_directory_iff.mp hdenotes.dataDir,
        ← fieldOf_name_iff.mp hdenotes.repository,
        ← fieldOf_name_iff.mp hdenotes.workingRepository]
    rw [derive?_eq_ok_iff.mpr hdenotes.derive, lockTimeout?_eq_ok_iff.mpr hdenotes.lockTimeout]
    show validate files (named assigned s.derive s.lockTimeout) = .ok s
    rw [hnamed, hvalid]

/-- The environment that spells out every field of some settings. -/
def environment (s : Settings) (name : String) : Option String :=
  if name = dataVariable then s.dataDir
  else if name = repositoryVariable then some s.repository
  else if name = workingVariable then some s.workingRepository
  else if name = deriveVariable then some (if s.derive then "true" else "false")
  else if name = lockTimeoutVariable then s.lockTimeout.map toString
  else none

/-- A number that was written down is read again. -/
theorem saysNumber_toString {n : Nat} (hn : n < Nat.pow 2 64) : SaysNumber (toString n) n := by
  have hdigits : ∀ c ∈ Nat.toDigits 10 n, c.isDigit = true := fun c hc =>
    Nat.isDigit_of_mem_toDigits (by decide) (by decide) hc
  have htext : (toString n).toList = Nat.toDigits 10 n := by
    rw [Nat.toString_eq_ofList_toDigits, String.toList_ofList]
  refine ⟨hn, Nat.toDigits 10 n, ⟨?_, hdigits, ?_⟩, Or.inl ?_⟩
  · exact Nat.toDigits_ne_nil
  · exact Nat.ofDigitChars_toDigits (by decide) (by decide)
  · rw [htext]
    exact Text.trim_eq_self fun c hc => Text.isWhiteSpace_of_isDigit (hdigits c hc)

theorem saysBoolean_word (b : Bool) : SaysBoolean (if b then "true" else "false") b := by
  cases b with
  | true => exact ⟨"true", by simp, by decide⟩
  | false => exact ⟨"false", by simp, by decide⟩

theorem denotes_environment (hdir : s.dataDir ≠ some "")
    (htimeout : ∀ n, s.lockTimeout = some n → n < Nat.pow 2 64) : Denotes s.environment s where
  dataDir := by
    rw [show s.environment dataVariable = s.dataDir from rfl]
    cases hset : s.dataDir with
    | none => rfl
    | some dir =>
      have hdir' : dir ≠ "" := fun h => hdir (by rw [hset, h])
      simp [FieldOf, SaysDirectory, hdir']
  repository := rfl
  workingRepository := rfl
  derive := saysBoolean_word s.derive
  lockTimeout := by
    rw [show s.environment lockTimeoutVariable = s.lockTimeout.map toString from rfl]
    cases hset : s.lockTimeout with
    | none => rfl
    | some n => exact ⟨n, rfl, saysNumber_toString (htimeout n hset)⟩

/-- Two settings agree in every field whose variable is set alike where they were read from. -/
structure AgreeWhere (assigned other : String → Option String) (s t : Settings) : Prop where
  dataDir : assigned dataVariable = other dataVariable → s.dataDir = t.dataDir
  repository : assigned repositoryVariable = other repositoryVariable → s.repository = t.repository
  workingRepository : assigned workingVariable = other workingVariable →
    s.workingRepository = t.workingRepository
  derive : assigned deriveVariable = other deriveVariable → s.derive = t.derive
  lockTimeout : assigned lockTimeoutVariable = other lockTimeoutVariable →
    s.lockTimeout = t.lockTimeout

theorem Denotes.agreeWhere (hs : Denotes assigned s) (ht : Denotes other t) :
    AgreeWhere assigned other s t where
  dataDir := fun hset => hs.dataDir.unique ht.dataDir hset SaysDirectory.unique
  repository := fun hset => hs.repository.unique ht.repository hset SaysName.unique
  workingRepository := fun hset =>
    hs.workingRepository.unique ht.workingRepository hset SaysName.unique
  derive := fun hset => hs.derive.unique ht.derive hset SaysBoolean.unique
  lockTimeout := fun hset => hs.lockTimeout.unique ht.lockTimeout hset SaysTimeout.unique

/-- What comes out of environments. -/
structure ReadsEnvironments (files : Files) : Prop where
  /-- Nothing else is accepted, and nothing else comes out. -/
  accepted : ∀ assigned s,
    ofEnvironment files assigned = .ok s ↔ Denotes assigned s ∧ s.validate files = .ok s
  /-- A variable decides its own field, whatever the other variables are. -/
  separate : ∀ assigned other s t, ofEnvironment files assigned = .ok s →
    ofEnvironment files other = .ok t → AgreeWhere assigned other s t
  /-- Settings that were spelled out are read as they were. -/
  returned : ∀ s : Settings, s.validate files = .ok s → s.dataDir ≠ some "" →
    (∀ n, s.lockTimeout = some n → n < Nat.pow 2 64) → ofEnvironment files s.environment = .ok s

/-- An environment is read exactly for what it says, whatever files there are. -/
theorem environment_exact (files : Files) : ReadsEnvironments files where
  accepted := fun _ _ => ofEnvironment_eq_ok_iff
  separate := fun _ _ _ _ hs ht =>
    (ofEnvironment_eq_ok_iff.mp hs).1.agreeWhere (ofEnvironment_eq_ok_iff.mp ht).1
  returned := fun _ hvalid hdir htimeout =>
    ofEnvironment_eq_ok_iff.mpr ⟨denotes_environment hdir htimeout, hvalid⟩

/-- Blanks, a sign, leading zeros and capital letters make no difference. -/
example : ofEnvironment Files.bare (fun name =>
      if name = deriveVariable then some " No\t"
      else if name = lockTimeoutVariable then some "+0250 "
      else none) =
    .ok { derive := false, lockTimeout := some 250 } := by
  decide

end Settings

end GraphCommit
