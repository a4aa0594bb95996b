import GraphCommit.Proofs.Branch.CommitPhase

/-!
# What can be read off the audit trail

When a commit fails, all that an operator has is one record: the text of the branch, a sentence, and
the texts of the writes in a list.  The strings in it stand there as they are, and the marks around
them may also occur inside them.  Nevertheless nothing is lost as long as the strings hold no blank:
every string is then ended by a blank of the text itself, which can be told from a mark.

So two failed commits are reported alike if and only if their branches have the same global
transaction id and the same qualifier and their journals are equal (`reports_alike_iff`).  Between
strings with blanks this may be otherwise.
-/

namespace GraphCommit

/-! ## Texts that are cut at a mark -/

/-- Two texts that are equal up to their first mark are equal before and behind it. -/
theorem cut_at_mark {mark : Char} {front front' back back' : List Char} (hfront : mark ∉ front)
    (hfront' : mark ∉ front') (heq : front ++ mark :: back = front' ++ mark :: back') :
    front = front' ∧ back = back' := by
  induction front generalizing front' with
  | nil =>
    cases front' with
    | nil => exact ⟨rfl, (List.cons.inj heq).2⟩
    | cons c rest => exact absurd (List.cons.inj heq).1 (List.ne_of_not_mem_cons hfront')
  | cons c rest ih =>
    cases front' with
    | nil => exact absurd (List.cons.inj heq).1.symm (List.ne_of_not_mem_cons hfront)
    | cons c' rest' =>
      obtain ⟨rfl, hrest⟩ := List.cons.inj heq
      obtain ⟨rfl, hback⟩ := ih (List.not_mem_of_not_mem_cons hfront)
        (List.not_mem_of_not_mem_cons hfront') hrest
      exact ⟨rfl, hback⟩

/-- A text of words, each with a blank behind it, and of what comes after them. -/
def spaced (words : List (List Char)) (rest : List Char) : List Char :=
  words.foldr (fun word text => word ++ ' ' :: text) rest

@[simp] theorem spaced_nil (rest : List Char) : spaced [] rest = rest := rfl

@[simp] theorem spaced_cons (word : List Char) (words : List (List Char)) (rest : List Char) :
    spaced (word :: words) rest = word ++ ' ' :: spaced words rest := rfl

@[simp] theorem spaced_append (words : List (List Char)) (rest tail : List Char) :
    spaced words rest ++ tail = spaced words (rest ++ tail) := by
  induction words with
  | nil => rfl
  | cons word words ih => simp [ih]

/-- The words of a text can be told if it is known how many there are. -/
theorem spaced_inj {words words' : List (List Char)} {rest rest' : List Char}
    (hlength : words.length = words'.length) (hwords : ∀ word ∈ words, ' ' ∉ word)
    (hwords' : ∀ word ∈ words', ' ' ∉ word) (heq : spaced words rest = spaced words' rest') :
    words = words' ∧ rest = rest' := by
  induction words generalizing words' with
  | nil =>
    obtain rfl := List.length_eq_zero_iff.mp hlength.symm
    exact ⟨rfl, heq⟩
  | cons word words ih =>
    obtain ⟨word', words', rfl⟩ := List.exists_cons_of_length_eq_add_one hlength.symm
    obtain ⟨rfl, hbehind⟩ := cut_at_mark (hwords _ List.mem_cons_self)
      (hwords' _ List.mem_cons_self) heq
    obtain ⟨rfl, hrest⟩ := ih (Nat.succ.inj hlength)
      (fun w hw => hwords w (List.mem_cons_of_mem _ hw))
      (fun w hw => hwords' w (List.mem_cons_of_mem _ hw)) hbehind
    exact ⟨rfl, hrest⟩

/-! ## Branches -/

namespace Text.Hex

theorem encode_injective {bytes bytes' : List UInt8} (heq : encode bytes = encode bytes') :
    bytes = bytes' := by
  have hread := congrArg decode heq
  rw [decode_encode, decode_encode] at hread
  exact Option.some.inj hread

/-- What is written in hexadecimal is made of digits. -/
theorem not_mem_encode {c : Char} (hc : ∀ n, n < 16 → digit n ≠ c) (bytes : List UInt8) :
    c ∉ encode bytes := by
  induction bytes with
  | nil => exact List.not_mem_nil
  | cons b rest ih =>
    have hb : b.toNat < 256 := b.toNat_lt
    simp only [encode, List.mem_cons, not_or]
    exact ⟨(hc _ (by omega)).symm, (hc _ (by omega)).symm, ih⟩

end Text.Hex

namespace Xid

theorem blank_not_mem_text (x : Xid) : ' ' ∉ x.text.toList := by
  have hdigit : ∀ n, n < 16 → Text.Hex.digit n ≠ ' ' := by decide
  simp only [text, String.toList_ofList, List.mem_append, List.mem_cons, not_or]
  exact ⟨Text.Hex.not_mem_encode hdigit _, by decide, Text.Hex.not_mem_encode hdigit _⟩

/-- The text of a branch tells everything of it but its format. -/
theorem text_eq_text_iff {x x' : Xid} :
    x.text = x'.text ↔ x.globalId = x'.globalId ∧ x.qualifier = x'.qualifier := by
  constructor
  · intro htext
    have hdigit : ∀ n, n < 16 → Text.Hex.digit n ≠ '_' := by decide
    obtain ⟨hglobal, hqualifier⟩ := cut_at_mark (Text.Hex.not_mem_encode hdigit _)
      (Text.Hex.not_mem_encode hdigit _) (String.ofList_injective htext)
    exact ⟨Text.Hex.encode_injective hglobal, Text.Hex.encode_injective hqualifier⟩
  · rintro ⟨hglobal, hqualifier⟩
    rw [text, text, hglobal, hqualifier]

end Xid

/-! ## Writes -/

namespace Write

/-- The strings that a caller has put into a write. -/
def parts : Write → List String
  | addData url base context => [url, base, context]
  | addTriple triple context => [triple.subject, triple.predicate, triple.object, context]
  | removeTriple triple context => [triple.subject, triple.predicate, triple.object, context]
  | clear context => [context]

/-- No string of a write holds a blank. -/
def IsUnspaced (w : Write) : Prop := ∀ part ∈ w.parts, ' ' ∉ part.toList

instance (w : Write) : Decidable w.IsUnspaced :=
  inferInstanceAs (Decidable (∀ part ∈ w.parts, ' ' ∉ part.toList))

/-- What a write is called. -/
def kind : Write → String
  | addData .. => "AddRdfData"
  | addTriple .. => "AddRdfTriple"
  | removeTriple .. => "RemoveRdfTriple"
  | clear _ => "ClearContext"

/-- The words between what a write is called and its context. -/
def middle : Write → List (List Char)
  | addData url base _ =>
    ["[url=".toList ++ url.toList ++ [','], "baseUri=".toList ++ base.toList ++ [',']]
  | addTriple triple _ | removeTriple triple _ =>
    ["[triple=(".toList ++ triple.subject.toList ++ [','], triple.predicate.toList ++ [','],
      triple.object.toList ++ [')', ',']]
  | clear _ => []

/-- What stands before the context of a write. -/
def label : Write → List Char
  | clear _ => "[context=".toList
  | _ => "context=".toList

theorem text_toList (w : Write) : w.text.toList =
    spaced (w.kind.toList :: w.middle) (w.label ++ w.context.toList ++ [']']) := by
  have hdata : "AddRdfData [url=".toList = "AddRdfData".toList ++ ' ' :: "[url=".toList := rfl
  have hbase : ", baseUri=".toList = ',' :: ' ' :: "baseUri=".toList := rfl
  have hadd : "AddRdfTriple [triple=".toList = "AddRdfTriple".toList ++ ' ' :: "[triple=".toList :=
    rfl
  have hremove : "RemoveRdfTriple [triple=".toList =
      "RemoveRdfTriple".toList ++ ' ' :: "[triple=".toList := rfl
  have hopen : "[triple=(".toList = "[triple=".toList ++ ['('] := rfl
  have hclear : "ClearContext [context=".toList =
      "ClearContext".toList ++ ' ' :: "[context=".toList := rfl
  have hcontext : ", context=".toList = ',' :: ' ' :: "context=".toList := rfl
  have hcomma : ", ".toList = [',', ' '] := rfl
  have hround : "(".toList = ['('] ∧ ")".toList = [')'] := ⟨rfl, rfl⟩
  have hclose : "]".toList = [']'] := rfl
  unfold text middle label
  cases w <;>
    simp only [Triple.text, kind, context, String.toList_append, spaced_cons, spaced_nil, hdata,
      hbase, hadd, hremove, hopen, hclear, hcontext, hcomma, hround, hclose, List.append_assoc,
      List.cons_append, List.nil_append]

theorem blank_not_mem_kind (w : Write) : ' ' ∉ w.kind.toList := by
  cases w <;> simp [kind]

theorem blank_not_mem_middle {w : Write} (hw : w.IsUnspaced) : ∀ word ∈ w.middle, ' ' ∉ word := by
  unfold IsUnspaced at hw
  cases w <;> simp_all [middle, parts]

theorem blank_not_mem_context {w : Write} (hw : w.IsUnspaced) : ' ' ∉ w.context.toList := by
  refine hw _ ?_
  cases w <;> simp [parts, context]

/-- Writes of one kind are laid out in the same way. -/
theorem layout_of_kind {w w' : Write} (hkind : w.kind = w'.kind) :
    w.middle.length = w'.middle.length ∧ w.label = w'.label := by
  unfold label
  cases w <;> cases w' <;> simp_all [kind, middle]

/-- What is between its marks makes up a write. -/
theorem eq_of_layout {w w' : Write} (hkind : w.kind = w'.kind) (hmiddle : w.middle = w'.middle)
    (hcontext : w.context = w'.context) : w = w' := by
  have htriple : ∀ t t' : Triple, t = t' ↔
      t.subject = t'.subject ∧ t.predicate = t'.predicate ∧ t.object = t'.object := by
    rintro ⟨⟩ ⟨⟩
    simp
  cases w <;> cases w' <;> simp_all [kind, middle, context, String.toList_inj]

/-- What stands behind a write in a list of writes. -/
def behind (ws : List Write) : List Char := ws.flatMap fun w => ',' :: ' ' :: w.text.toList

/-- The context of a write ends where the next write begins, or the list ends. -/
theorem context_inj {context context' : List Char} {ws ws' : List Write} (hcontext : ' ' ∉ context)
    (hcontext' : ' ' ∉ context')
    (heq : context ++ ']' :: behind ws = context' ++ ']' :: behind ws') :
    context = context' ∧ behind ws = behind ws' := by
  cases ws with
  | nil =>
    cases ws' with
    | nil => exact ⟨List.append_cancel_right heq, rfl⟩
    | cons w' rest' =>
      -- the longer list has a blank, the other one has none
      have hblank : ' ' ∈ context ++ ']' :: behind [] := by
        rw [heq]
        simp [behind]
      simp [behind, hcontext] at hblank
  | cons w rest =>
    cases ws' with
    | nil =>
      have hblank : ' ' ∈ context' ++ ']' :: behind [] := by
        rw [← heq]
        simp [behind]
      simp [behind, hcontext'] at hblank
    | cons w' rest' =>
      -- the first blank is the one behind the comma, whatever brackets the contexts hold
      have hcut : (context ++ [']', ',']) ++ ' ' :: (w.text.toList ++ behind rest) =
          (context' ++ [']', ',']) ++ ' ' :: (w'.text.toList ++ behind rest') := by
        simpa [behind] using heq
      obtain ⟨hfront, hback⟩ :=
        cut_at_mark (by simpa using hcontext) (by simpa using hcontext') hcut
      refine ⟨List.append_cancel_right hfront, ?_⟩
      simpa [behind] using hback

/-- A write can be read off a list of writes that begins with it. -/
theorem text_append_inj {w w' : Write} {ws ws' : List Write} (hw : w.IsUnspaced)
    (hw' : w'.IsUnspaced)
    (heq : w.text.toList ++ behind ws = w'.text.toList ++ behind ws') :
    w = w' ∧ behind ws = behind ws' := by
  simp only [text_toList, spaced_append] at heq
  obtain ⟨hkind, heq⟩ := cut_at_mark w.blank_not_mem_kind w'.blank_not_mem_kind heq
  have hkind := String.toList_injective hkind
  obtain ⟨hlength, hlabel⟩ := layout_of_kind hkind
  obtain ⟨hmiddle, heq⟩ :=
    spaced_inj hlength (blank_not_mem_middle hw) (blank_not_mem_middle hw') heq
  simp only [hlabel, List.append_assoc] at heq
  obtain ⟨hcontext, hbehind⟩ := context_inj (blank_not_mem_context hw) (blank_not_mem_context hw')
    (List.append_cancel_left heq)
  exact ⟨eq_of_layout hkind hmiddle (String.toList_injective hcontext), hbehind⟩

/-- No write is lost in a list of writes. -/
theorem behind_inj {ws ws' : List Write} (hws : ∀ w ∈ ws, w.IsUnspaced)
    (hws' : ∀ w ∈ ws', w.IsUnspaced) (heq : behind ws = behind ws') : ws = ws' := by
  induction ws generalizing ws' with
  | nil =>
    cases ws' with
    | nil => rfl
    | cons w' rest' => simp [behind] at heq
  | cons w rest ih =>
    cases ws' with
    | nil => simp [behind] at heq
    | cons w' rest' =>
      have htexts : w.text.toList ++ behind rest = w'.text.toList ++ behind rest' := by
        simpa [behind] using heq
      obtain ⟨rfl, hrest⟩ :=
        text_append_inj (hws _ List.mem_cons_self) (hws' _ List.mem_cons_self) htexts
      rw [ih (fun v hv => hws v (List.mem_cons_of_mem _ hv))
        (fun v hv => hws' v (List.mem_cons_of_mem _ hv)) hrest]

end Write

/-! ## Journals -/

namespace Journal

/-- No string of the writes in a journal holds a blank. -/
def IsUnspaced (j : Journal) : Prop := ∀ w ∈ j.writes, w.IsUnspaced

instance (j : Journal) : Decidable j.IsUnspaced :=
  inferInstanceAs (Decidable (∀ w ∈ j.writes, w.IsUnspaced))

theorem list_toList (w : Write) (rest : List Write) :
    (", ".intercalate ((w :: rest).map Write.text)).toList =
      w.text.toList ++ Write.behind rest := by
  have hcomma : ", ".toList = [',', ' '] := rfl
  induction rest generalizing w with
  | nil => simp [Write.behind]
  | cons v rest ih =>
    rw [List.map_cons, List.map_cons, String.intercalate_cons_cons, ← List.map_cons]
    simp only [String.toList_append, ih, hcomma]
    simp [Write.behind]

theorem list_ne_empty (w : Write) (rest : List Write) :
    ", ".intercalate ((w :: rest).map Write.text) ≠ "" := by
  intro hempty
  have hnil := congrArg String.toList hempty
  rw [list_toList, Write.text_toList] at hnil
  simp at hnil

/-- The text of a journal tells all its writes and their order. -/
theorem text_eq_text_iff {j j' : Journal} (hj : j.IsUnspaced) (hj' : j'.IsUnspaced) :
    j.text = j'.text ↔ j = j' := by
  obtain ⟨writes⟩ := j
  obtain ⟨writes'⟩ := j'
  constructor
  · intro htext
    have hlist : ", ".intercalate (writes.map Write.text) =
        ", ".intercalate (writes'.map Write.text) :=
      (String.append_right_inj _).mp ((String.append_left_inj _).mp htext)
    congr 1
    cases writes with
    | nil =>
      cases writes' with
      | nil => rfl
      | cons w' rest' => exact absurd hlist.symm (list_ne_empty w' rest')
    | cons w rest =>
      cases writes' with
      | nil => exact absurd hlist (list_ne_empty w rest)
      | cons w' rest' =>
        have hbehind := congrArg String.toList hlist
        rw [list_toList, list_toList] at hbehind
        obtain ⟨rfl, hrest⟩ := Write.text_append_inj (hj _ List.mem_cons_self)
          (hj' _ List.mem_cons_self) hbehind
        rw [Write.behind_inj (fun v hv => hj v (List.mem_cons_of_mem _ hv))
          (fun v hv => hj' v (List.mem_cons_of_mem _ hv)) hrest]
  · intro heq
    rw [heq]

/-- With blanks, one write may look like two. -/
example : text ⟨[.clear "urn:a], ClearContext [context=urn:b"]⟩ =
    text ⟨[.clear "urn:a", .clear "urn:b"]⟩ := by
  decide

end Journal

/-! ## Failed commits -/

namespace Participant

theorem notCommitted_eq_notCommitted_iff {x x' : Xid} {j j' : Journal} (hj : j.IsUnspaced)
    (hj' : j'.IsUnspaced) :
    notCommitted x j = notCommitted x' j' ↔ x.text = x'.text ∧ j = j' := by
  constructor
  · intro heq
    have hlists := congrArg String.toList heq
    simp only [notCommitted, String.toList_append, List.append_assoc] at hlists
    have hsentence : ∀ rest : List Char,
        " HAS NOT BEEN COMMITTED! THE FOLLOWING OPERATIONS MUST BE ROLLED BACK: ".toList ++ rest =
        ' ' :: ("HAS NOT BEEN COMMITTED! THE FOLLOWING OPERATIONS MUST BE ROLLED BACK: ".toList ++
          rest) := fun _ => rfl
    have hbranch := List.append_cancel_left hlists
    rw [hsentence, hsentence] at hbranch
    obtain ⟨hxid, hjournal⟩ := cut_at_mark x.blank_not_mem_text x'.blank_not_mem_text hbranch
    exact ⟨String.toList_injective hxid, (Journal.text_eq_text_iff hj hj').mp
      (String.toList_injective (List.append_cancel_left hjournal))⟩
  · rintro ⟨hxid, rfl⟩
    rw [notCommitted, notCommitted, hxid]

/-- A commit that the branch does not allow is not even tried. -/
theorem commit_refused {S : Type} [Backend S] {e : Enlisted S} {x : Xid} {b : BranchFault}
    (onePhase : Bool) (hrefused : e.participant.branch.checkSuccess x = .error b) :
    (Command.commit x onePhase).call e = (.error b, { e with
      outside := e.outside.note .debug Record.participant ("commit transaction xid " ++ x.text ++
        " (one phase: " ++ (if onePhase then "true" else "false") ++ ")") }) := by
  simp only [Command.call, commit, Effect.bind_apply, note_apply, decide_apply, hrefused]

end Participant

namespace Connector

open Participant

section

variable {S : Type} [stores : Backend S] {c : Connector S} {i : Nat} {x : Xid} {onePhase : Bool}
  {message : String}

/-- The commit of a branch fails, and the connector leaves an error with this message in the audit
trail. -/
structure Reports (c : Connector S) (i : Nat) (x : Xid) (onePhase : Bool) (message : String) :
    Prop where
  fails : ∃ b, (coordinate i (Command.commit x onePhase).call c).1 = .error b
  told : ⟨.error, Record.audit, message⟩ ∈ (Piece.coordinate i (.commit x onePhase)).spoken c

/-- A commit that the branch does not allow says nothing in the audit trail. -/
theorem audit_spoken_of_refused {b : BranchFault} (onePhase : Bool)
    (hrefused : (c.connection i).participant.branch.checkSuccess x = .error b) :
    ((Piece.coordinate i (.commit x onePhase)).spoken c).filter (·.target = Record.audit) = [] := by
  have hcall := @commit_refused S stores.hushed ⟨(c.connection i).participant, c.outside⟩ x b
    onePhase hrefused
  have hspoken : (Piece.coordinate i (.commit x onePhase)).spoken c =
      (@Command.call S stores.hushed (.commit x onePhase)
        ⟨(c.connection i).participant, c.outside⟩).2.outside.log.records.drop
        c.outside.log.records.length := rfl
  rw [hspoken, hcall]
  exact (Log.Aside.add (show Record.participant ≠ Record.audit by decide)).audit

/-- What is reported of a failed commit is made from its branch and its journal. -/
theorem Reports.message_eq (hreports : c.Reports i x onePhase message) :
    message = notCommitted x (c.connection i).journal := by
  have haudit : ⟨.error, Record.audit, message⟩ ∈
      ((Piece.coordinate i (.commit x onePhase)).spoken c).filter (·.target = Record.audit) :=
    List.mem_filter.mpr ⟨hreports.told, by simp⟩
  cases hallowed : (c.connection i).participant.branch.checkSuccess x with
  | error b =>
    rw [audit_spoken_of_refused onePhase hallowed] at haudit
    exact absurd haudit List.not_mem_nil
  | ok _ =>
    rw [audit_spoken onePhase hallowed] at haudit
    split at haudit
    · exact congrArg Record.message (List.mem_singleton.mp haudit)
    · exact absurd haudit List.not_mem_nil

/-- A commit that is allowed but not carried out is reported, if errors are logged at all. -/
theorem reports_of_fails (onePhase : Bool)
    (hallowed : (c.connection i).participant.branch.checkSuccess x = .ok ())
    (hfails : (c.connection i).participant.succeeds c.outside.stores = false)
    (hkeeps : c.outside.log.keeps .error = true) :
    c.Reports i x onePhase (notCommitted x (c.connection i).journal) := by
  constructor
  · rcases commit_outcome (e := ⟨(c.connection i).participant, c.outside⟩) onePhase hallowed with
      ⟨hsucceeds, -⟩ | ⟨-, f, o, -, hcommit, -⟩
    · exact absurd (hsucceeds.symm.trans hfails) (by simp)
    · exact ⟨_, congrArg Prod.fst hcommit⟩
  · have haudit := audit_spoken onePhase hallowed
    rw [if_pos ⟨hfails, hkeeps⟩] at haudit
    exact List.mem_of_mem_filter (haudit ▸ List.mem_singleton_self _)

end

variable {S S' : Type} [Backend S] [Backend S'] {c : Connector S} {c' : Connector S'} {i i' : Nat}
  {x x' : Xid} {onePhase onePhase' : Bool} {message message' : String}

/-- Two failed commits are reported alike if and only if they are of branches that agree in all but
their format and the same writes were made in both, in the same order. -/
theorem reports_alike_iff (hreports : c.Reports i x onePhase message)
    (hreports' : c'.Reports i' x' onePhase' message')
    (hunspaced : (c.connection i).journal.IsUnspaced)
    (hunspaced' : (c'.connection i').journal.IsUnspaced) :
    message = message' ↔ x.globalId = x'.globalId ∧ x.qualifier = x'.qualifier ∧
      (c.connection i).journal = (c'.connection i').journal := by
  rw [hreports.message_eq, hreports'.message_eq,
    notCommitted_eq_notCommitted_iff hunspaced hunspaced', Xid.text_eq_text_iff, and_assoc]

/-- A context that ends like a list of writes, and the writes that it looks like. -/
theorem reports_alike_iff_bracketed :
    ∃ (S : Type) (_ : Backend S) (c c' : Connector S) (x : Xid) (message message' : String),
      (c.connection 0).journal = ⟨[.clear "],", .clear ""]⟩ ∧
      (c'.connection 0).journal = ⟨[.clear "],,ClearContext[context="]⟩ ∧
      c.Reports 0 x false message ∧ c'.Reports 0 x false message' ∧
      (c.connection 0).journal.IsUnspaced ∧ (c'.connection 0).journal.IsUnspaced ∧
      ¬ message = message' := by
  let stores : Backend Unit :=
    { durability := fun _ _ => .onCommit
      act := fun s _ a => if a = .commit then .fail (.connection "lost") s else .ok () s
      select := fun s _ _ => .ok [] s
      ask := fun s _ _ => .ok true s
      create := fun s => .ok ⟨1⟩ s
      openWorking := fun s => .ok ⟨0⟩ s
      shutDownWorking := fun s => .ok () s }
  let c₀ : Connector Unit :=
    { settings := {}, locks := {}, outside := ⟨(), ⟨some .error, []⟩⟩, hasWorking := false }
  let x : Xid := ⟨1, [1], [2]⟩
  let c := c₀.follow [.connect, .coordinate 0 (.start x Flags.none), .write 0 (.clear "],"),
    .write 0 (.clear ""), .coordinate 0 (.finish x Flags.success)]
  let c' := c₀.follow [.connect, .coordinate 0 (.start x Flags.none),
    .write 0 (.clear "],,ClearContext[context="), .coordinate 0 (.finish x Flags.success)]
  have hreports := reports_of_fails (c := c) (i := 0) (x := x) false rfl rfl rfl
  have hreports' := reports_of_fails (c := c') (i := 0) (x := x) false rfl rfl rfl
  have hjournal : (c.connection 0).journal = ⟨[.clear "],", .clear ""]⟩ := rfl
  have hjournal' : (c'.connection 0).journal = ⟨[.clear "],,ClearContext[context="]⟩ := rfl
  have hunspaced : (c.connection 0).journal.IsUnspaced := hjournal ▸ by decide
  have hunspaced' : (c'.connection 0).journal.IsUnspaced := hjournal' ▸ by decide
  refine ⟨Unit, stores, c, c', x, _, _, hjournal, hjournal', hreports, hreports', hunspaced,
    hunspaced', ?_⟩
  intro halike
  have hjournals := ((reports_alike_iff hreports hreports' hunspaced hunspaced').mp halike).2.2
  exact absurd hjournals (by decide)

end Connector

end GraphCommit
