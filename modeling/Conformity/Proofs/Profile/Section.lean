import Conformity.Proofs.Profile.Record
import Conformity.Proofs.Suppression.Entries
import Conformity.Proofs.Table
import Conformity.Proofs.Text.Trim

/-!
# Sections of lists by type

A section of a document maps types to lists of items. What an item tells is decided by this item alone
(`Assertion.IsItem`, `Override.IsItem`), and the items of a type are those under all keys with the text
of the type, in order (`Data.itemsUnder`). A table is whole if it has what all items tell, each type in
the order of its items, and nothing else (`IsWhole`).

Keys are trimmed while they are read, so two keys of a section can come to have one text. The list of
the later one then takes the place of the other one's, unless it tells nothing. So what is read from a
section is whole exactly if of all keys with one text at most one has an item that tells something
(`sections_whole_iff`).
-/

namespace Conformity

open Text (trim isBlankText)

variable {α : Type} {R : Data → α → Prop}

/-! ## What a section tells -/

/-- The value of a field of a record; it is no value if the field is not there. -/
def Data.part (d : Data) (key : String) : Data :=
  (Data.field key ((d.entries?).getD [])).getD .null

/-- The items under all keys with a trimmed text, in order. -/
def Data.itemsUnder (d : Data) (name : String) : List Data :=
  ((d.entries?).getD []).flatMap fun e =>
    if trim e.1.plain = name then (e.2.items?).getD [] else []

/-- An assertion that an item tells: the item is a record, and of the trimmed texts of its fields none
of the three that a check needs is missing or empty. -/
inductive Assertion.IsItem : Data → Assertion → Prop
  | of {label : Nat} {fields : Data.Fields} {context test message : String} :
      fieldText? "context" fields = some context → fieldText? "test" fields = some test →
      fieldText? "message" fields = some message → context ≠ "" → test ≠ "" → message ≠ "" →
      IsItem (.map label fields)
        ⟨some context, some test, some message, fieldText? "id" fields⟩

/-- An override that an item tells: the item is a record with an element. -/
inductive Override.IsItem : Data → Override → Prop
  | of {label : Nat} {fields : Data.Fields} {element : String} :
      fieldText? "element" fields = some element → element ≠ "" →
      IsItem (.map label fields)
        ⟨element, fieldText? "minOccurs" fields, fieldText? "maxOccurs" fields⟩

/-- A table has under each name what the items under it tell, and no name for nothing. -/
def IsWhole (R : Data → α → Prop) (d : Data) (t : Table (List α)) : Prop :=
  ∀ name, Gathers R (d.itemsUnder name) ((t.get? name).getD []) ∧ t.get? name ≠ some []

/-- An entry of a section has an item that tells something. -/
def Fills (R : Data → α → Prop) (e : Scalar × Data) : Prop :=
  ∃ item ∈ (e.2.items?).getD [], ∃ x, R item x

/-- Of the keys with one trimmed text, at most one has an item that tells something. -/
def KeysApart (R : Data → α → Prop) (d : Data) : Prop :=
  ((d.entries?).getD []).Pairwise fun e f =>
    trim e.1.plain = trim f.1.plain → ¬ (Fills R e ∧ Fills R f)

/-! ## Reading an item -/

/-- A trimmed text is there and not blank exactly if it is not empty. -/
theorem hasText_fieldText?_iff {name : String} {fields : Data.Fields} :
    hasText (fieldText? name fields) ↔ ∃ s, fieldText? name fields = some s ∧ s ≠ "" := by
  unfold fieldText?
  cases Data.field name fields with
  | none => simp [hasText]
  | some d =>
      show hasText (trimmedText? d) ↔ ∃ s, trimmedText? d = some s ∧ s ≠ ""
      unfold trimmedText?
      split
      · simp [hasText]
      · have hempty : (trim d.plain).isEmpty = isBlankText d.plain := Text.isEmpty_trim d.plain
        have hne : trim d.plain ≠ "" ↔ isBlankText d.plain = false := by
          rw [← hempty, ← Bool.not_eq_true, String.isEmpty_iff]
        simp [hasText, hne]

theorem Assertion.ofRecord?_eq_some_iff {fields : Data.Fields} {a : Assertion} {label : Nat} :
    Assertion.ofRecord? fields = some a ↔ IsItem (.map label fields) a := by
  have hcomplete : ∀ x : Assertion, x.isComplete ↔
      hasText x.context ∧ hasText x.test ∧ hasText x.message := by
    intro x
    simp [Assertion.isComplete, and_assoc]
  unfold Assertion.ofRecord?
  constructor
  · intro h
    dsimp only at h
    split at h
    · next hc =>
      rw [hcomplete, hasText_fieldText?_iff, hasText_fieldText?_iff, hasText_fieldText?_iff] at hc
      obtain ⟨⟨c, hcontext, hc⟩, ⟨t, htest, ht⟩, m, hmessage, hm⟩ := hc
      rw [hcontext, htest, hmessage] at h
      cases h
      exact .of hcontext htest hmessage hc ht hm
    · cases h
  · rintro ⟨hcontext, htest, hmessage, hc, ht, hm⟩
    dsimp only
    rw [if_pos, hcontext, htest, hmessage]
    rw [hcomplete, hasText_fieldText?_iff, hasText_fieldText?_iff, hasText_fieldText?_iff]
    exact ⟨⟨_, hcontext, hc⟩, ⟨_, htest, ht⟩, _, hmessage, hm⟩

theorem Override.ofRecord?_eq_some_iff {fields : Data.Fields} {o : Override} {label : Nat} :
    Override.ofRecord? fields = some o ↔ IsItem (.map label fields) o := by
  unfold Override.ofRecord?
  constructor
  · intro h
    split at h
    · next element helement =>
      split at h
      · cases h
      · next hne =>
        cases h
        exact .of helement (by simpa using hne)
    · cases h
  · rintro ⟨helement, hne⟩
    rw [helement]
    simp [hne]

/-- A reader of records tells of an item what the relation says, and of anything else nothing. -/
def ReadsItems (read : Data.Fields → Option α) (R : Data → α → Prop) : Prop :=
  ∀ item x, item.entries?.bind read = some x ↔ R item x

theorem Assertion.reads_ofRecord? : ReadsItems Assertion.ofRecord? Assertion.IsItem := by
  intro item a
  cases item with
  | map label fields => exact ofRecord?_eq_some_iff
  | _ => exact ⟨nofun, nofun⟩

theorem Override.reads_ofRecord? : ReadsItems Override.ofRecord? Override.IsItem := by
  intro item o
  cases item with
  | map label fields => exact ofRecord?_eq_some_iff
  | _ => exact ⟨nofun, nofun⟩

theorem gathers_iff {β : Type} {S : β → α → Prop} {f : β → Option α}
    (h : ∀ x y, f x = some y ↔ S x y) {xs : List β} {ys : List α} :
    Gathers S xs ys ↔ ys = xs.filterMap f := by
  constructor
  · intro hys
    induction hys with
    | nil => rfl
    | gives hy _ ih => rw [List.filterMap_cons_some ((h _ _).mpr hy), ih]
    | @skips x xs ys hno _ ih =>
        have hnone : f x = none := by
          rw [Option.eq_none_iff_forall_ne_some]
          intro y hy
          exact hno y ((h x y).mp hy)
        rw [List.filterMap_cons_none hnone, ih]
  · rintro rfl
    exact gathers_filterMap fun x _ y => h x y

/-! ## Reading a section -/

section

variable (read : Data.Fields → Option α)

/-- What the items of a list tell. -/
def itemsTold (v : Data) : List α :=
  ((v.items?).getD []).filterMap fun item => item.entries?.bind read

/-- The lists of the entries with a name that tell something. -/
def listsUnder (es : List (Scalar × Data)) (name : String) : List (List α) :=
  (es.filter fun e => trim e.1.plain == name && !(itemsTold read e.2).isEmpty).map fun e => itemsTold read e.2

variable {read}

theorem ne_nil_of_mem_listsUnder {es : List (Scalar × Data)} {name : String} {xs : List α}
    (h : xs ∈ listsUnder read es name) : xs ≠ [] := by
  obtain ⟨e, he, rfl⟩ := List.mem_map.mp h
  have hfilled := (List.mem_filter.mp he).2
  rw [Bool.and_eq_true] at hfilled
  simpa using hfilled.2

/-- Of the lists under keys with one text, the last one is kept. -/
theorem get?_sectionOf (d : Data) (name : String) :
    (sectionOf read d).get? name = (listsUnder read ((d.entries?).getD []) name).getLast? := by
  unfold sectionOf
  generalize (d.entries?).getD [] = es
  induction es using List.reverseRecOn with
  | nil => rfl
  | append_singleton es e ih =>
      have hlists : listsUnder read (es ++ [e]) name =
          listsUnder read es name ++ listsUnder read [e] name := by
        simp [listsUnder]
      rw [List.foldl_append, List.foldl_cons, List.foldl_nil, hlists]
      show Table.get? (if (itemsTold read e.2).isEmpty then _ else _) name = _
      by_cases hempty : (itemsTold read e.2).isEmpty
      · -- an entry that tells nothing is passed over
        have hnone : listsUnder read [e] name = [] := by simp [listsUnder, hempty]
        rw [if_pos hempty, hnone, List.append_nil]
        exact ih
      · rw [if_neg hempty, Table.get?_set]
        by_cases hname : trim e.1.plain = name
        · have hone : listsUnder read [e] name = [itemsTold read e.2] := by
            simp [listsUnder, hempty, hname]
          rw [if_pos hname, hone, List.getLast?_concat]
          rfl
        · have hnone : listsUnder read [e] name = [] := by simp [listsUnder, hname]
          rw [if_neg hname, hnone, List.append_nil]
          exact ih

/-- The items under a name tell what these lists have together. -/
theorem filterMap_itemsUnder (d : Data) (name : String) :
    (d.itemsUnder name).filterMap (fun item => item.entries?.bind read) =
      (listsUnder read ((d.entries?).getD []) name).flatten := by
  unfold Data.itemsUnder
  generalize (d.entries?).getD [] = es
  induction es with
  | nil => rfl
  | cons e es ih =>
      rw [List.flatMap_cons, List.filterMap_append, ih]
      by_cases hname : trim e.1.plain = name
      · rw [if_pos hname]
        show itemsTold read e.2 ++ _ = _
        by_cases hempty : itemsTold read e.2 = []
        · simp [listsUnder, hempty]
        · simp [listsUnder, hname, hempty]
      · rw [if_neg hname]
        simp [listsUnder, hname]

/-- The last of several lists is all of them together exactly if there are no two. -/
theorem getLast?_eq_flatten_iff {xss : List (List α)} (h : ∀ xs ∈ xss, xs ≠ []) :
    xss.getLast?.getD [] = xss.flatten ↔ xss.Pairwise fun _ _ => False := by
  rcases xss with _ | ⟨xs, _ | ⟨ys, yss⟩⟩
  · simp
  · simp
  · refine iff_of_false ?_ fun hpair => (List.pairwise_cons.mp hpair).1 ys (by simp)
    intro heq
    -- a list in front of the last one has members that the last one lacks
    have hpos : 0 < xs.length := List.length_pos_iff.mpr (h xs (by simp))
    obtain ⟨front, last, hsplit⟩ : ∃ front last, ys :: yss = front ++ [last] :=
      ⟨_, _, (List.dropLast_append_getLast (List.cons_ne_nil ys yss)).symm⟩
    have hlast : (xs :: ys :: yss).getLast? = some last := by
      rw [hsplit, ← List.cons_append, List.getLast?_concat]
    have hlength : last.length = xs.length + (ys :: yss).flatten.length := by
      rw [hlast, Option.getD_some] at heq
      calc last.length = (xs :: ys :: yss).flatten.length := congrArg List.length heq
        _ = xs.length + (ys :: yss).flatten.length := by
          rw [List.flatten_cons, List.length_append]
    have hrest : (ys :: yss).flatten.length = front.flatten.length + last.length := by
      rw [hsplit]
      simp
    omega

theorem fills_iff (hread : ReadsItems read R) {e : Scalar × Data} :
    Fills R e ↔ itemsTold read e.2 ≠ [] := by
  unfold Fills itemsTold
  rw [ne_eq, List.filterMap_eq_nil_iff]
  push Not
  refine exists_congr fun item => and_congr_right fun _ => ?_
  rw [Option.ne_none_iff_exists']
  exact exists_congr fun x => (hread item x).symm

/-- Whether keys are apart can be seen from what is read under them. -/
theorem keysApart_iff (hread : ReadsItems read R) (d : Data) :
    KeysApart R d ↔ ((d.entries?).getD []).Pairwise fun e f =>
      trim e.1.plain = trim f.1.plain → itemsTold read e.2 = [] ∨ itemsTold read f.2 = [] := by
  unfold KeysApart
  simp only [fills_iff hread, ← not_or, not_not]

/-- No name has two lists that tell something exactly if the keys are apart. -/
theorem forall_pairwise_listsUnder_iff (hread : ReadsItems read R) (d : Data) :
    (∀ name, (listsUnder read ((d.entries?).getD []) name).Pairwise fun _ _ => False) ↔
      KeysApart R d := by
  rw [keysApart_iff hread]
  unfold listsUnder
  simp only [List.pairwise_map, List.pairwise_filter, Bool.and_eq_true, beq_iff_eq,
    Bool.not_eq_true', List.isEmpty_eq_false_iff]
  simp only [List.pairwise_iff_forall_sublist]
  constructor
  · intro h e f hef hname
    by_contra hboth
    obtain ⟨he, hf⟩ := not_or.mp hboth
    exact h _ hef ⟨rfl, he⟩ ⟨hname.symm, hf⟩
  · rintro h name e f hef ⟨rfl, he⟩ ⟨hname, hf⟩
    exact (h hef hname.symm).elim he hf

theorem isWhole_sectionOf_iff (hread : ReadsItems read R) (d : Data) :
    IsWhole R d (sectionOf read d) ↔ KeysApart R d := by
  rw [← forall_pairwise_listsUnder_iff hread]
  refine forall_congr' fun name => ?_
  have hkept : (sectionOf read d).get? name = _ := get?_sectionOf d name
  have hfilled : ∀ xs ∈ listsUnder read ((d.entries?).getD []) name, xs ≠ [] :=
    fun xs => ne_nil_of_mem_listsUnder
  have hsome : (sectionOf read d).get? name ≠ some [] := by
    intro hnil
    rw [hkept] at hnil
    exact hfilled [] (List.mem_of_getLast? hnil) rfl
  rw [and_iff_left hsome, gathers_iff hread, filterMap_itemsUnder, hkept,
    getLast?_eq_flatten_iff hfilled]

end

/-! ## The sections of documents and profiles -/

theorem Profile.overrides_of_ofRecord {name : String} {d : Data} {p : Profile}
    (h : Profile.ofRecord name d = .ok p) :
    p.overrides = Overrides.ofSection (d.part overridesKey) ∧
      p.assertions = Assertions.ofSection (d.part assertionsKey) := by
  obtain ⟨-, rfl⟩ := ofRecord_eq_ok_iff.mp h
  exact ⟨rfl, rfl⟩

/-- What is read from a section of assertions, and what a profile has from its sections, is whole
exactly if the keys are apart. -/
theorem sections_whole_iff (d : Data) :
    (IsWhole Assertion.IsItem d (Assertions.ofSection d) ↔ KeysApart Assertion.IsItem d) ∧
    ∀ name p, Profile.ofRecord name d = .ok p →
      (IsWhole Override.IsItem (d.part overridesKey) p.overrides ↔
        KeysApart Override.IsItem (d.part overridesKey)) ∧
      (IsWhole Assertion.IsItem (d.part assertionsKey) p.assertions ↔
        KeysApart Assertion.IsItem (d.part assertionsKey)) := by
  refine ⟨isWhole_sectionOf_iff Assertion.reads_ofRecord? d, ?_⟩
  intro name p hp
  obtain ⟨hoverrides, hassertions⟩ := Profile.overrides_of_ofRecord hp
  rw [hoverrides, hassertions]
  exact ⟨isWhole_sectionOf_iff Override.reads_ofRecord? _,
    isWhole_sectionOf_iff Assertion.reads_ofRecord? _⟩

/-- An assertion about a document's number, as an item. -/
def numberItem (test : String) : Data :=
  .ofEntries [("context", .text "/Invoice"), ("test", .text test), ("message", .text " no number")]

/-- The assertion that it tells. -/
def numberAssertion (test : String) : Assertion :=
  { context := some "/Invoice", test := some test, message := some "no number" }

/-- A record with two keys of one text in both sections, of which one tells nothing. -/
def recordApart : Data :=
  .ofEntries
    [(overridesKey, .ofEntries [("INVOICE ", .ofList [.ofEntries [("element", .text " ")]]),
      ("INVOICE", .ofList [.ofEntries [("element", .text " cac:Signature ")]])]),
     (assertionsKey, .ofEntries [("INVOICE", .ofList [numberItem "cbc:ID", numberItem "@id"]),
      (" INVOICE", .ofList [.ofEntries [("context", .text "/Invoice")]])])]

/-- Nothing is lost where the other one of two keys tells nothing. -/
theorem sections_whole_of_apart :
    ∃ p, Profile.ofRecord "apart" recordApart = .ok p ∧
      IsWhole Override.IsItem (recordApart.part overridesKey) p.overrides ∧
      IsWhole Assertion.IsItem (recordApart.part assertionsKey) p.assertions ∧
      p.overrides = [("INVOICE", [{ element := "cac:Signature" }])] ∧
      p.assertions = [("INVOICE", [numberAssertion "cbc:ID", numberAssertion "@id"])] := by
  have hrecord : (profileForm.misfits recordApart).isEmpty := by decide +kernel
  have hp : Profile.ofRecord "apart" recordApart = .ok _ :=
    Profile.ofRecord_eq_ok_iff.mpr ⟨List.isEmpty_iff.mp hrecord, rfl⟩
  obtain ⟨hoverrides, hassertions⟩ := (sections_whole_iff recordApart).2 "apart" _ hp
  refine ⟨_, hp, hoverrides.mpr ?_, hassertions.mpr ?_, by decide +kernel, by decide +kernel⟩
  · rw [keysApart_iff Override.reads_ofRecord?]
    decide +kernel
  · rw [keysApart_iff Assertion.reads_ofRecord?]
    decide +kernel

/-- A section with two keys of one text. -/
def sectionSpaced : Data :=
  .ofEntries [("INVOICE", .ofList [numberItem "cbc:ID"]), (" INVOICE ", .ofList [numberItem "@id"])]

/-- The list of the first key is lost. -/
theorem sections_not_whole_of_spaced :
    (Assertions.ofSection sectionSpaced).get? "INVOICE" = some [numberAssertion "@id"] ∧
      ¬ IsWhole Assertion.IsItem sectionSpaced (Assertions.ofSection sectionSpaced) := by
  have hget : (Assertions.ofSection sectionSpaced).get? "INVOICE" =
      some [numberAssertion "@id"] := by decide +kernel
  have hall : (sectionSpaced.itemsUnder "INVOICE").filterMap
      (fun item => item.entries?.bind Assertion.ofRecord?) =
        [numberAssertion "cbc:ID", numberAssertion "@id"] := by decide +kernel
  refine ⟨hget, fun hwhole => ?_⟩
  have hlist := (gathers_iff Assertion.reads_ofRecord?).mp (hwhole "INVOICE").1
  rw [hget, hall] at hlist
  simp at hlist

end Conformity
