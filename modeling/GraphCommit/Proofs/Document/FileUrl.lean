import GraphCommit.Document.FileUrl
import Mathlib.Data.List.Infix
import Mathlib.Data.List.TakeWhile

/-!
# From the URL of a file to its path

A URL is cleaned, its host is taken off, its dot segments are resolved, and what is left is decoded
name by name.  None of this does anything to an extension of letters at its end
(`FileUrl.IsPlain.path`): no encoded byte reaches over the dot before it, no dot segment ends like
that, and neither does the name of a drive.

A name is decoded to bytes, and these need not be a text.  An ASCII character behind them can be
read all the same (`textOf_concat`), since no other character has a byte below 128.
-/

namespace GraphCommit.Document

namespace FileUrl

open String (utf8EncodeChar)

/-- Bytes that are the encoding of a text. -/
def IsText (bytes : List UInt8) : Prop := ∃ text : List Char, text.flatMap utf8EncodeChar = bytes

theorem isValidUTF8_iff {bytes : List UInt8} :
    (ByteArray.mk bytes.toArray).IsValidUTF8 ↔ IsText bytes := by
  constructor
  · rintro ⟨text, htext⟩
    refine ⟨text, ?_⟩
    have hbytes := congrArg (fun b => b.data.toList) htext
    simpa [List.utf8Encode] using hbytes.symm
  · rintro ⟨text, rfl⟩
    refine ⟨text, ?_⟩
    apply ByteArray.ext
    simp [List.utf8Encode]

theorem textOf_encoded (text : List Char) :
    textOf (text.flatMap utf8EncodeChar) = String.ofList text := by
  have hvalid : (ByteArray.mk (text.flatMap utf8EncodeChar).toArray).IsValidUTF8 :=
    isValidUTF8_iff.mpr ⟨text, rfl⟩
  unfold textOf String.fromUTF8?
  rw [dif_pos hvalid, Option.getD_some, ← String.toByteArray_inj, String.toByteArray_ofList]
  apply ByteArray.ext
  simp [List.utf8Encode, String.fromUTF8]

/-- What can be read of bytes that are no text. -/
theorem textOf_of_not_isText {bytes : List UInt8} (hbytes : ¬ IsText bytes) :
    textOf bytes =
      String.ofList (bytes.map fun b => if b < 128 then Char.ofNat b.toNat else '\uFFFD') := by
  unfold textOf String.fromUTF8?
  rw [dif_neg fun hvalid => hbytes (isValidUTF8_iff.mp hvalid), Option.getD_none]

/-- A byte below 128 is a character of its own. -/
theorem encoded_ascii {c : Char} (hc : c.toNat < 128) :
    utf8EncodeChar c = [UInt8.ofNat c.toNat] := by
  have hle : c.val.toNat ≤ 127 := by
    change c.toNat ≤ 127
    omega
  unfold utf8EncodeChar
  simp only [if_pos hle]
  rfl

/-- No character of several bytes ends in a byte below 128. -/
theorem eq_nil_of_encoded {c : Char} {front : List UInt8} {a : UInt8} (ha : a < 128)
    (hc : utf8EncodeChar c = front ++ [a]) : front = [] := by
  have hlast : (utf8EncodeChar c).getLast? = some a := by
    rw [hc, List.getLast?_concat]
  have hbyte : ∀ n : Nat, UInt8.ofNat (n % 64 + 128) ≠ a := by
    rintro n rfl
    have hn : (UInt8.ofNat (n % 64 + 128)).toNat = n % 64 + 128 :=
      UInt8.toNat_ofNat_of_lt' (by show _ < 256; omega)
    have hlt := UInt8.lt_iff_toNat_lt.mp ha
    rw [hn] at hlt
    exact absurd hlt (by simp)
  unfold utf8EncodeChar at hlast hc
  dsimp only at hlast hc
  split at hlast
  · next hle =>
    rw [if_pos hle] at hc
    have hlength := congrArg List.length hc
    rw [List.length_append] at hlength
    apply List.length_eq_zero_iff.mp
    simpa using hlength
  · split at hlast
    · exact absurd (Option.some.inj hlast) (hbyte _)
    · split at hlast
      · exact absurd (Option.some.inj hlast) (hbyte _)
      · exact absurd (Option.some.inj hlast) (hbyte _)

/-- So a byte below 128 is no part of another character, and without it a text is still one. -/
theorem IsText.of_concat {bytes : List UInt8} {a : UInt8} (ha : a < 128)
    (htext : IsText (bytes ++ [a])) : IsText bytes := by
  obtain ⟨text, htext⟩ := htext
  rcases List.eq_nil_or_concat text with rfl | ⟨front, last, rfl⟩
  · simp at htext
  · rw [List.concat_eq_append, List.flatMap_append, List.flatMap_singleton] at htext
    rcases List.eq_nil_or_concat (utf8EncodeChar last) with hnil | ⟨init, b, hinit⟩
    · exact absurd hnil String.utf8EncodeChar_ne_nil
    · rw [List.concat_eq_append] at hinit
      rw [hinit, ← List.append_assoc] at htext
      obtain ⟨hfront, hb⟩ := List.append_inj' htext rfl
      obtain rfl : b = a := by simpa using hb
      rw [eq_nil_of_encoded ha hinit, List.append_nil] at hfront
      exact ⟨front, hfront⟩

/-- A character of ASCII behind other bytes can be read, whatever these are. -/
theorem textOf_concat (bytes : List UInt8) {c : Char} (hc : c.toNat < 128) :
    (textOf (bytes ++ utf8EncodeChar c)).toList = (textOf bytes).toList ++ [c] := by
  by_cases hbytes : IsText bytes
  · obtain ⟨text, rfl⟩ := hbytes
    have hboth : text.flatMap utf8EncodeChar ++ utf8EncodeChar c =
        (text ++ [c]).flatMap utf8EncodeChar := by
      simp
    rw [hboth, textOf_encoded, textOf_encoded, String.toList_ofList, String.toList_ofList]
  · have hcode : (UInt8.ofNat c.toNat).toNat = c.toNat :=
      UInt8.toNat_ofNat_of_lt' (by show _ < 256; omega)
    have hsmall : UInt8.ofNat c.toNat < 128 := by
      rw [UInt8.lt_iff_toNat_lt, hcode]
      exact hc
    rw [encoded_ascii hc]
    have hnone : ¬ IsText (bytes ++ [UInt8.ofNat c.toNat]) := fun h => hbytes (h.of_concat hsmall)
    rw [textOf_of_not_isText hbytes, textOf_of_not_isText hnone, List.map_append,
      String.toList_ofList, String.toList_ofList, List.map_singleton, if_pos hsmall, hcode,
      Char.ofNat_toNat]

theorem textOf_append {text : List Char} (htext : ∀ c ∈ text, c.toNat < 128) :
    ∀ bytes, (textOf (bytes ++ text.flatMap utf8EncodeChar)).toList =
      (textOf bytes).toList ++ text := by
  induction text with
  | nil => simp
  | cons c rest ih =>
    intro bytes
    have hrest := ih (fun b hb => htext b (List.mem_cons_of_mem c hb)) (bytes ++ utf8EncodeChar c)
    rw [textOf_concat bytes (htext c List.mem_cons_self)] at hrest
    simpa using hrest

/-- A character stands for itself, unless it is a percent sign with two digits behind it. -/
theorem decode_cons {c : Char} {rest : List Char}
    (hc : ∀ a b tail h l, c = '%' → rest = a :: b :: tail → Text.Hex.value? a = some h →
      Text.Hex.value? b ≠ some l) :
    decode (c :: rest) = utf8EncodeChar c ++ decode rest := by
  rw [decode.eq_def]
  split
  · next a b tail heq =>
    obtain ⟨rfl, rfl⟩ := List.cons.inj heq
    split
    · next h l ha hb => exact absurd hb (hc a b tail h l rfl rfl ha)
    · rfl
  · next heq =>
    obtain ⟨rfl, rfl⟩ := List.cons.inj heq
    rfl
  · contradiction

/-- Without percent signs there is nothing to decode. -/
theorem decode_of_not_mem {text : List Char} (htext : '%' ∉ text) :
    decode text = text.flatMap utf8EncodeChar := by
  induction text with
  | nil => rfl
  | cons c rest ih =>
    rw [decode_cons fun _ _ _ _ _ hc => absurd hc (List.ne_of_not_mem_cons htext).symm,
      ih (List.not_mem_of_not_mem_cons htext), List.flatMap_cons]

/-- No encoded byte reaches over a dot, which is no digit. -/
theorem decode_append (front : List Char) {e : List Char} (he : '%' ∉ e) :
    decode (front ++ '.' :: e) = decode front ++ ('.' :: e).flatMap utf8EncodeChar := by
  have hdot : Text.Hex.value? '.' = none := by decide
  fun_induction decode front with
  | case1 a b rest h l ha hb ih => simp only [List.cons_append, decode, ha, hb, ih]
  | case2 a b rest hab ih =>
    have hplain : decode ('%' :: (a :: b :: rest ++ '.' :: e)) =
        utf8EncodeChar '%' ++ decode (a :: b :: rest ++ '.' :: e) := by
      apply decode_cons
      rintro a' b' tail h l - heq ha hb
      obtain ⟨rfl, hrest⟩ := List.cons.inj heq
      obtain ⟨rfl, -⟩ := List.cons.inj hrest
      exact hab h l ha hb
    rw [List.append_assoc, ← ih]
    exact hplain
  | case3 c rest hc ih =>
    have hplain : decode (c :: (rest ++ '.' :: e)) =
        utf8EncodeChar c ++ decode (rest ++ '.' :: e) := by
      apply decode_cons
      rintro a b tail h l hpercent heq ha hb
      -- fewer than two characters are left before the dot
      match rest, hc with
      | [], _ =>
        obtain ⟨rfl, -⟩ := List.cons.inj heq
        rw [hdot] at ha
        contradiction
      | [_], _ =>
        obtain ⟨-, hrest⟩ := List.cons.inj heq
        obtain ⟨rfl, -⟩ := List.cons.inj hrest
        rw [hdot] at hb
        contradiction
      | x :: y :: others, hc => exact hc x y others hpercent rfl
    rw [List.append_assoc, ← ih]
    exact hplain
  | case4 =>
    have hnone : '%' ∉ '.' :: e := by
      simp [he]
    exact decode_of_not_mem hnone

/-- A name that ends in a dot and an extension of ASCII still does when it is decoded. -/
theorem textOf_decode (front : List Char) {e : List Char} (hpercent : '%' ∉ e)
    (hascii : ∀ c ∈ e, c.toNat < 128) :
    (textOf (decode (front ++ '.' :: e))).toList = (textOf (decode front)).toList ++ '.' :: e := by
  rw [decode_append front hpercent]
  apply textOf_append
  intro c hc
  rcases List.mem_cons.mp hc with rfl | hc
  · decide
  · exact hascii c hc

/-! ## Segments -/

/-- A name that is not a dot segment is the last one that is left. -/
theorem walk_concat {name : List Char} (hdouble : isDoubleDot name = false)
    (hdot : isDot name = false) (hdrive : isDrive name = false) (names : List (List Char)) :
    ∀ kept, ∃ others, walk kept (names ++ [name]) = others ++ [name] := by
  induction names with
  | nil =>
    intro kept
    refine ⟨kept.reverse, ?_⟩
    simp [walk, hdouble, hdot, normalizeDrive, hdrive]
  | cons segment rest ih =>
    intro kept
    rw [List.cons_append]
    unfold walk
    split
    · exact ih _
    · split
      · exact ih _
      · exact ih _

/-- What no slash cuts is the end of the last of the names. -/
theorem splitOn_concat {name : List Char} (hname : '/' ∉ name) (front : List Char) :
    ∃ others last, Text.splitOn '/' (front ++ name) = others ++ [last ++ name] := by
  induction front with
  | nil => exact ⟨[], [], Text.splitOn_of_not_mem hname⟩
  | cons c rest ih =>
    obtain ⟨others, last, hsplit⟩ := ih
    unfold Text.splitOn at hsplit ⊢
    rw [List.cons_append]
    unfold Text.splitBy
    rw [hsplit]
    split
    · exact ⟨[] :: others, last, rfl⟩
    · cases others with
      | nil => exact ⟨[], c :: last, rfl⟩
      | cons part parts => exact ⟨(c :: part) :: parts, last, rfl⟩

/-- The name of a drive ends in no letter. -/
theorem isDrive_of_isAlpha {z : Char} (hz : z.isAlpha = true) (letter : Char) :
    isDrive [letter, z] = false := by
  have hcolon : z ≠ ':' ∧ z ≠ '|' := by
    constructor <;> rintro rfl <;> contradiction
  simp [isDrive, hcolon]

/-! ## Cleaning -/

/-- Nothing is trimmed before a character that stays. -/
theorem trim_append {p : Char → Bool} {x : Char} (hx : p x = false) (front back : List Char) :
    ((front ++ x :: back).reverse.dropWhile p).reverse =
      front ++ x :: (back.reverse.dropWhile p).reverse := by
  rw [List.reverse_append, List.reverse_cons, List.append_assoc, List.dropWhile_append]
  split
  · next hback =>
    rw [List.isEmpty_iff.mp hback]
    simp [hx]
  · simp

/-- The text before the first mark. -/
def beforeMark (text : List Char) : List Char := text.takeWhile fun c => c != '?' && c != '#'

theorem exists_beforeMark (text : List Char) : ∃ back, text = beforeMark text ++ back ∧
    ∀ m rest, back = m :: rest → m = '?' ∨ m = '#' := by
  refine ⟨text.dropWhile fun c => c != '?' && c != '#', ?_, ?_⟩
  · exact (List.takeWhile_append_dropWhile).symm
  · intro m rest hback
    have hmark := List.head?_dropWhile_not (fun c : Char => c != '?' && c != '#') text
    rw [hback] at hmark
    simp only [List.head?_cons, Bool.and_eq_false_iff, bne_eq_false_iff_eq] at hmark
    exact hmark

/-! ## The end of a path -/

/-- An extension of letters.  Nothing on the way from a URL to a path changes it. -/
structure IsPlain (e : List Char) : Prop where
  nonempty : e ≠ []
  letter : ∀ c ∈ e, c.isAlpha = true

namespace IsPlain

variable {e : List Char} (he : IsPlain e)

include he

theorem not_mem {c : Char} (hc : c.isAlpha = false) : c ∉ e := by
  intro hmem
  rw [he.letter c hmem] at hc
  contradiction

theorem between {c : Char} (hc : c ∈ e) : 65 ≤ c.toNat ∧ c.toNat < 128 := by
  have hrange : ∀ low high : UInt32, high.toNat < 128 → 65 ≤ low.toNat →
      c.val ≥ low ∧ c.val ≤ high → 65 ≤ c.toNat ∧ c.toNat < 128 := by
    rintro low high hhigh hlow ⟨hge, hle⟩
    have hge' := UInt32.le_iff_toNat_le.mp hge
    have hle' := UInt32.le_iff_toNat_le.mp hle
    show 65 ≤ c.val.toNat ∧ c.val.toNat < 128
    omega
  rcases (Bool.or_eq_true _ _).mp (he.letter c hc) with hupper | hlower
  · exact hrange 'A'.val 'Z'.val (by decide) (by decide) (of_decide_eq_true hupper)
  · obtain ⟨hge, hle⟩ := Bool.and_eq_true_iff.mp hlower
    exact hrange 'a'.val 'z'.val (by decide) (by decide)
      ⟨of_decide_eq_true hge, of_decide_eq_true hle⟩

theorem exists_last : ∃ init z, e = init ++ [z] ∧ z.isAlpha = true := by
  rcases List.eq_nil_or_concat e with hnil | ⟨init, z, hconcat⟩
  · exact absurd hnil he.nonempty
  · rw [List.concat_eq_append] at hconcat
    refine ⟨init, z, hconcat, he.letter z ?_⟩
    rw [hconcat]
    exact List.mem_append_right _ List.mem_cons_self

theorem isDrive (front : List Char) : FileUrl.isDrive (front ++ '.' :: e) = false := by
  obtain ⟨init, z, rfl, hz⟩ := he.exists_last
  rw [← List.cons_append, ← List.append_assoc]
  generalize front ++ '.' :: init = rest
  match rest with
  | [] => rfl
  | [letter] => exact isDrive_of_isAlpha hz letter
  | _ :: _ :: _ => simp [FileUrl.isDrive]

theorem lower : IsPlain (e.map Char.toLower) := by
  have hascii : ∀ n < 128,
      (Char.ofNat n).isAlpha = true → (Char.ofNat n).toLower.isAlpha = true := by
    decide
  constructor
  · simp [he.nonempty]
  · intro c hc
    obtain ⟨b, hb, rfl⟩ := List.mem_map.mp hc
    have hletter := hascii b.toNat (he.between hb).2
    rw [Char.ofNat_toNat] at hletter
    exact hletter (he.letter b hb)

/-- None of the ways to write a dot segment ends in a dot and letters. -/
theorem not_dots (front : List Char) : isDoubleDot (front ++ '.' :: e) = false ∧
    isDot (front ++ '.' :: e) = false := by
  have hdots : ∀ dots ∈ ["..", ".%2e", "%2e.", "%2e%2e", ".", "%2e"],
      ∀ back ∈ dots.toList.tails,
        ¬ (back.head? = some '.' ∧ back.tail ≠ [] ∧ back.tail.all Char.isAlpha = true) := by
    decide
  have hne : ∀ dots ∈ ["..", ".%2e", "%2e.", "%2e%2e", ".", "%2e"],
      String.ofList ((front ++ '.' :: e).map Char.toLower) ≠ dots := by
    intro dots hmem hequal
    have hlower : front.map Char.toLower ++ '.' :: e.map Char.toLower = dots.toList := by
      rw [← hequal, String.toList_ofList, List.map_append]
      rfl
    have htail : '.' :: e.map Char.toLower ∈ dots.toList.tails :=
      (List.mem_tails _ _).mpr ⟨_, hlower⟩
    have hletters : (e.map Char.toLower).all Char.isAlpha = true :=
      List.all_eq_true.mpr he.lower.letter
    exact hdots dots hmem _ htail ⟨rfl, he.lower.nonempty, hletters⟩
  simp only [List.mem_cons, List.not_mem_nil, or_false] at hne
  unfold isDoubleDot isDot
  constructor <;> simp only [List.contains_eq_mem, decide_eq_false_iff_not, List.mem_cons,
    List.not_mem_nil, or_false, not_or]
  · exact ⟨hne _ (by simp), hne _ (by simp), hne _ (by simp), hne _ (by simp)⟩
  · exact ⟨hne _ (by simp), hne _ (by simp)⟩

theorem segments (front : List Char) :
    ∃ others last, FileUrl.segments (front ++ '.' :: e) = others ++ [last ++ '.' :: e] := by
  have hslash : '/' ∉ '.' :: e := by
    simp [he.not_mem (show '/'.isAlpha = false by decide)]
  have hwalk : ∀ front : List Char, ∃ others last,
      walk [] (Text.splitOn '/' (front ++ '.' :: e)) = others ++ [last ++ '.' :: e] := by
    intro front
    obtain ⟨names, last, hsplit⟩ := splitOn_concat hslash front
    obtain ⟨others, hothers⟩ := walk_concat (he.not_dots last).1 (he.not_dots last).2
      (he.isDrive last) names []
    exact ⟨others, last, by rw [hsplit, hothers]⟩
  unfold FileUrl.segments
  match front with
  | [] => exact hwalk []
  | c :: rest =>
    by_cases hc : c = '/'
    · subst hc
      exact hwalk rest
    · rw [List.cons_append]
      split
      · next heq => exact absurd (List.cons.inj heq).1 hc
      · exact hwalk (c :: rest)

theorem textOf (front : List Char) :
    (FileUrl.textOf (decode (front ++ '.' :: e))).toList =
      (FileUrl.textOf (decode front)).toList ++ '.' :: e :=
  textOf_decode front (he.not_mem (by decide)) fun _ hc => (he.between hc).2

/-- A host with an extension would be another machine. -/
theorem localPart {front path : List Char}
    (hlocal : localPart? (front ++ '.' :: e) = some path) : '.' :: e <:+ path := by
  have hslash : ∀ c ∈ '.' :: e, (c != '/') = true := by
    intro c hc
    rcases List.mem_cons.mp hc with rfl | hc
    · decide
    · have hne : c ≠ '/' := fun h => he.not_mem (show '/'.isAlpha = false by decide) (h ▸ hc)
      simpa using hne
  unfold localPart? at hlocal
  -- a reference with a host goes on after two slashes, any other one is a path as it stands
  split at hlocal
  · next rest heq =>
    obtain ⟨back, rfl⟩ : ∃ back, rest = back ++ '.' :: e := by
      match front, heq with
      | [], heq => simp at heq
      | [_], heq => simp at heq
      | _ :: _ :: back, heq =>
        simp only [List.cons_append, List.cons.injEq] at heq
        exact ⟨back, heq.2.2.symm⟩
    dsimp only at hlocal
    split at hlocal
    · obtain rfl := Option.some.inj hlocal
      exact ⟨'/' :: back, rfl⟩
    · by_cases hback : ∀ c ∈ back, (c != '/') = true
      · -- all of it is the host, in which there is a dot
        have hall : ∀ c ∈ back ++ '.' :: e, (c != '/') = true := by
          intro c hc
          rcases List.mem_append.mp hc with hc | hc
          · exact hback c hc
          · exact hslash c hc
        rw [List.takeWhile_eq_self_iff.mpr hall, he.textOf] at hlocal
        generalize hname : ((FileUrl.textOf (decode back)).toList ++ '.' :: e).map Char.toLower =
          name at hlocal
        have hdot : '.' ∈ name := by
          rw [← hname, List.map_append]
          exact List.mem_append_right _ List.mem_cons_self
        split at hlocal
        · next hmachine =>
          simp only [Bool.or_eq_true, List.isEmpty_iff, beq_iff_eq] at hmachine
          rcases hmachine with rfl | rfl
          · contradiction
          · exact absurd hdot (by decide)
        · contradiction
      · have hnonempty : ¬ (back.dropWhile (· != '/')).isEmpty = true := by
          rw [List.isEmpty_iff, List.dropWhile_eq_nil_iff]
          exact hback
        split at hlocal
        · obtain rfl := Option.some.inj hlocal
          rw [List.dropWhile_append, if_neg hnonempty]
          exact ⟨_, rfl⟩
        · contradiction
  · obtain rfl := Option.some.inj hlocal
    exact ⟨front, rfl⟩

theorem join (others : List (List Char)) (name : List Char) :
    '.' :: e <:+ FileUrl.join (others ++ [name ++ '.' :: e]) := by
  have hpath : (others ++ [name ++ '.' :: e]).flatMap ('/' :: ·) =
      (others.flatMap ('/' :: ·) ++ '/' :: name) ++ '.' :: e := by
    simp
  unfold FileUrl.join
  dsimp only
  rw [hpath]
  obtain ⟨init, z, hlast, hz⟩ := he.exists_last
  split
  · next c letter _ _ hreverse =>
    obtain rfl : z = c := by
      rw [hlast, ← List.cons_append, ← List.append_assoc, List.reverse_append] at hreverse
      exact (List.cons.inj hreverse).1
    rw [isDrive_of_isAlpha hz letter]
    exact ⟨_, rfl⟩
  · exact ⟨_, rfl⟩

/-- Cleaning leaves the end of what stands before the first mark as it is. -/
theorem clean {front text : List Char} (htext : beforeMark text = front ++ '.' :: e) :
    '.' :: e <:+ FileUrl.clean text := by
  obtain ⟨back, hsplit, hback⟩ := exists_beforeMark text
  have hmarks : ∀ c ∈ front ++ '.' :: e, (c != '?' && c != '#') = true := by
    intro c hc
    rw [← htext] at hc
    exact List.mem_takeWhile_imp (p := fun c => c != '?' && c != '#') hc
  rw [htext] at hsplit
  -- the last letter keeps what stands before it from being trimmed, and so does a mark behind it
  obtain ⟨init, z, hlast, -⟩ := he.exists_last
  have hz : decide (z.toNat ≤ 32) = false := by
    have := (he.between (show z ∈ e by simp [hlast])).1
    simp; omega
  obtain ⟨back', htrim, hback'⟩ : ∃ back',
      (text.reverse.dropWhile fun c => decide (c.toNat ≤ 32)).reverse =
        front ++ '.' :: e ++ back' ∧ ∀ m rest, back' = m :: rest → m = '?' ∨ m = '#' := by
    refine ⟨(back.reverse.dropWhile fun c => decide (c.toNat ≤ 32)).reverse, ?_, ?_⟩
    · have hlong : text = (front ++ '.' :: init) ++ z :: back := by
        rw [hsplit, hlast]
        simp
      rw [hlong, trim_append hz, hlast]
      simp
    · intro m rest hm
      match back, hback with
      | [], _ => simp at hm
      | b :: others, hback =>
        have hb := hback b others rfl
        have hlarge : decide (b.toNat ≤ 32) = false := by
          rcases hb with rfl | rfl <;> decide
        have htrim := trim_append (p := fun c => decide (c.toNat ≤ 32)) hlarge [] others
        rw [List.nil_append] at htrim
        rw [htrim] at hm
        obtain ⟨rfl, -⟩ := List.cons.inj hm
        exact hb
  have hkept : ('.' :: e).filter (fun c => c != '\t' && c != '\n' && c != '\r') = '.' :: e := by
    refine List.filter_eq_self.mpr fun c hc => ?_
    rcases List.mem_cons.mp hc with rfl | hc
    · decide
    · have hne : ∀ b : Char, b.isAlpha = false → c ≠ b := fun b hb h => he.not_mem hb (h ▸ hc)
      simp [hne '\t' (by decide), hne '\n' (by decide), hne '\r' (by decide)]
  have hmap : ('.' :: e).map (fun c => if c = '\\' then '/' else c) = '.' :: e := by
    have hsame : ∀ c ∈ '.' :: e, (if c = '\\' then '/' else c) = c := by
      intro c hc
      rw [if_neg]
      rintro rfl
      exact he.not_mem (by decide) (List.mem_of_ne_of_mem (by decide) hc)
    exact (List.map_congr_left hsame).trans (List.map_id _)
  unfold FileUrl.clean
  dsimp only
  rw [htrim, List.filter_append, List.filter_append, hkept, List.takeWhile_append_of_pos]
  · -- what is left of the query and the fragment still begins with its mark
    have hnothing : (back'.filter fun c => c != '\t' && c != '\n' && c != '\r').takeWhile
        (fun c => c != '?' && c != '#') = [] := by
      match back', hback' with
      | [], _ => rfl
      | m :: rest, hback' => rcases hback' m rest rfl with rfl | rfl <;> rfl
    rw [hnothing, List.append_nil, List.map_append, hmap]
    exact ⟨_, rfl⟩
  · intro c hc
    apply hmarks
    rcases List.mem_append.mp hc with hc | hc
    · exact List.mem_append_left _ (List.mem_of_mem_filter hc)
    · exact List.mem_append_right _ hc

theorem path {text : List Char} {path : String}
    (htext : '.' :: e <:+ beforeMark text)
    (hpath : path? text = some path) : '.' :: e <:+ path.toList := by
  obtain ⟨front, hfront⟩ := htext
  obtain ⟨cleaned, hclean⟩ := he.clean hfront.symm
  unfold path? at hpath
  rw [← hclean] at hpath
  obtain ⟨local_, hlocal, hjoin⟩ := Option.bind_eq_some_iff.mp hpath
  obtain ⟨names, hnames⟩ := he.localPart hlocal
  obtain ⟨others, last, hsegments⟩ := he.segments names
  rw [← Option.some.inj hjoin, String.toList_ofList, ← hnames, hsegments, List.map_append,
    List.map_singleton, he.textOf]
  exact he.join _ _

end IsPlain

end FileUrl

end GraphCommit.Document
