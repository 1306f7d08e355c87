import Conformity.Proofs.Markup.Charset

/-!
# The label of a character set

Bytes of unknown origin may begin with a heading that names their character set, in single bytes or in
units of two (`Names`); the guarded reader finds this label exactly there (`label?_of_iff_names`). It can
read bytes under the labels of its own sets, of sets of single bytes and of UTF-8. A label that is none
of these is foreign (`IsForeign`). Whatever else is wrong with a document makes it unreadable, so a
reader is stopped by something else exactly if the heading names a foreign character set
(`read_stopped_iff`).
-/

namespace Conformity.Markup.Guarded

variable {bs : Bytes} {label : String} {layout : Layout}

/-! ## Headings in bytes -/

/-- The bytes of an ASCII character. -/
def Layout.bytesOf : Layout → Char → Bytes
  | singles, c => [c.toNat.toUInt8]
  | units false, c => [c.toNat.toUInt8, 0]
  | units true, c => [0, c.toNat.toUInt8]

/-- The bytes that mark a layout. -/
def Layout.mark : Layout → Bytes
  | singles => [0xEF, 0xBB, 0xBF]
  | units false => [0xFF, 0xFE]
  | units true => [0xFE, 0xFF]

/-- Bytes begin, behind a mark or without one, with a heading that names a character set. -/
def Names (bs : Bytes) (label : String) : Prop :=
  ∃ (layout : Layout) (mark : Bytes) (h : Heading) (text : List Char) (rest : Bytes),
    (mark = [] ∨ mark = layout.mark) ∧ IsHeading h text ∧ h.encoding = some label ∧
      bs = mark ++ text.flatMap layout.bytesOf ++ rest

/-- A layout is found with all the bytes but for its mark. -/
theorem Layout.eq_append_of (bs : Bytes) :
    ∃ mark, (mark = [] ∨ mark = (Layout.of bs).1.mark) ∧ bs = mark ++ (Layout.of bs).2 := by
  unfold Layout.of
  split
  · exact ⟨_, .inr rfl, rfl⟩
  · exact ⟨_, .inr rfl, rfl⟩
  · exact ⟨_, .inr rfl, rfl⟩
  all_goals exact ⟨[], .inl rfl, rfl⟩

theorem Layout.of_mark_append (layout : Layout) (rest : Bytes) :
    Layout.of (layout.mark ++ rest) = (layout, rest) := by
  rcases layout with _ | _ | _ <;> rfl

/-- A heading has the layout of its bytes, since it begins with two ASCII characters. -/
theorem Layout.of_flatMap {h : Heading} {text : List Char} (hheading : IsHeading h text)
    (layout : Layout) (rest : Bytes) :
    Layout.of (text.flatMap layout.bytesOf ++ rest) = (layout, text.flatMap layout.bytesOf ++ rest) := by
  obtain ⟨body, rfl, -⟩ := hheading.exists_body
  rcases layout with _ | _ | _ <;> rfl

theorem unit16_eq_iff {bigEndian : Bool} {a b : UInt8} {n : Nat} (hn : n < 0x80) :
    unit16 bigEndian a b = n ↔
      (if bigEndian then a else b) = 0 ∧ (if bigEndian then b else a) = n.toUInt8 := by
  have ha := a.toNat_lt
  have hb := b.toNat_lt
  have hcode : n.toUInt8.toNat = n := Text.toNat_toUInt8 (by omega)
  cases bigEndian <;> simp only [unit16, ← UInt8.toNat_inj, hcode, UInt8.toNat_zero, if_true,
    Bool.false_eq_true, if_false] <;> omega

/-- Bytes stand for codes that begin with one of an ASCII character exactly if they begin with the bytes
of the character. -/
theorem Layout.codes_eq_cons_iff {c : Char} {more : List Nat} (hc : c.toNat < 0x80) :
    layout.codes bs = c.toNat :: more ↔
      ∃ rest, bs = layout.bytesOf c ++ rest ∧ layout.codes rest = more := by
  have hcode : c.toNat.toUInt8.toNat = c.toNat := Text.toNat_toUInt8 (by omega)
  cases layout with
  | singles =>
      cases bs with
      | nil => simp [Layout.codes, Layout.bytesOf]
      | cons b bs =>
          have hbyte : b.toNat = c.toNat ↔ b = c.toNat.toUInt8 := by
            rw [← UInt8.toNat_inj, hcode]
          simp [Layout.codes, Layout.bytesOf, hbyte, and_assoc]
  | units bigEndian =>
      rcases bs with _ | ⟨a, _ | ⟨b, bs⟩⟩
      · cases bigEndian <;> simp [Layout.codes, fullUnits16, Layout.bytesOf]
      · cases bigEndian <;> simp [Layout.codes, fullUnits16, Layout.bytesOf]
      · simp only [Layout.codes, fullUnits16, List.cons.injEq, unit16_eq_iff hc]
        cases bigEndian <;> simp [Layout.bytesOf, and_assoc, and_left_comm]

theorem Layout.exists_codes_eq_append_iff {text : List Char} (htext : ∀ c ∈ text, c.toNat < 0x80) :
    (∃ more, layout.codes bs = text.map Char.toNat ++ more) ↔
      ∃ rest, bs = text.flatMap layout.bytesOf ++ rest := by
  induction text generalizing bs with
  | nil => simp
  | cons c text ih =>
      obtain ⟨hc, htext⟩ := List.forall_mem_cons.mp htext
      simp only [List.map_cons, List.cons_append, codes_eq_cons_iff hc, List.flatMap_cons,
        List.append_assoc]
      constructor
      · rintro ⟨more, rest, rfl, hrest⟩
        obtain ⟨rest', rfl⟩ := (ih htext).mp ⟨more, hrest⟩
        exact ⟨rest', rfl⟩
      · rintro ⟨rest, rfl⟩
        obtain ⟨more, hmore⟩ := (ih htext).mpr ⟨rest, rfl⟩
        exact ⟨more, _, rfl, hmore⟩

theorem Layout.label?_eq_some_iff : layout.label? bs = some label ↔
    ∃ h text rest, IsHeading h text ∧ h.encoding = some label ∧
      bs = text.flatMap layout.bytesOf ++ rest := by
  unfold Layout.label?
  simp only [Option.bind_eq_some_iff, Heading.ofCodes?_eq_some_iff]
  constructor
  · rintro ⟨h, ⟨text, more, hheading, hcodes⟩, hlabel⟩
    obtain ⟨rest, hbs⟩ := (exists_codes_eq_append_iff hheading.isAscii).mp ⟨more, hcodes⟩
    exact ⟨h, text, rest, hheading, hlabel, hbs⟩
  · rintro ⟨h, text, rest, hheading, hlabel, hbs⟩
    obtain ⟨more, hcodes⟩ := (exists_codes_eq_append_iff hheading.isAscii).mpr ⟨rest, hbs⟩
    exact ⟨h, ⟨text, more, hheading, hcodes⟩, hlabel⟩

/-- The label that a reader finds is the one that the bytes name. -/
theorem label?_of_iff_names :
    (Layout.of bs).1.label? (Layout.of bs).2 = some label ↔ Names bs label := by
  constructor
  · intro h
    obtain ⟨heading, text, rest, hheading, hlabel, hbehind⟩ := Layout.label?_eq_some_iff.mp h
    obtain ⟨mark, hmark, hbs⟩ := Layout.eq_append_of bs
    refine ⟨_, mark, heading, text, rest, hmark, hheading, hlabel, ?_⟩
    rw [List.append_assoc, ← hbehind]
    exact hbs
  · rintro ⟨layout, mark, heading, text, rest, rfl | rfl, hheading, hlabel, rfl⟩
    · rw [List.nil_append, Layout.of_flatMap hheading]
      exact Layout.label?_eq_some_iff.mpr ⟨heading, text, rest, hheading, hlabel, rfl⟩
    · rw [List.append_assoc, Layout.of_mark_append]
      exact Layout.label?_eq_some_iff.mpr ⟨heading, text, rest, hheading, hlabel, rfl⟩

/-! ## Foreign labels -/

/-- A label is none of a set that every reader has, none of a set of single bytes, and none of UTF-8. -/
def IsForeign (label : String) : Prop :=
  ¬ isKnownLabel label ∧ singleByte? label = none ∧ plainLabel label ∉ utf8Labels

instance (label : String) : Decidable (IsForeign label) := by
  unfold IsForeign
  infer_instance

theorem unreadable_of_orUnreadable {α : Type} {x : Option α} {r : Refusal}
    (h : orUnreadable x = .error r) : r = .unreadable := by
  cases x with
  | some a => cases h
  | none =>
      cases h
      rfl

theorem charsetOf_stopped_iff :
    (∃ r, charsetOf label = .error r ∧ r ≠ .unreadable) ↔ IsForeign label := by
  unfold IsForeign charsetOf
  dsimp only
  by_cases hutf8 : label.map Char.toLower = "utf-8"
  · simp [isKnownLabel, hutf8]
  by_cases hascii : label.map Char.toLower = "us-ascii"
  · simp [isKnownLabel, hascii]
  by_cases hlatin : label.map Char.toLower = "iso-8859-1"
  · simp [isKnownLabel, hlatin]
  simp only [beq_iff_eq, hutf8, hascii, hlatin, if_false]
  by_cases hknown : isKnownLabel label
  · simp [hknown]
  · cases singleByte? label with
    | some upper => simp [hknown]
    | none =>
        by_cases hother : plainLabel label ∈ utf8Labels
        · simp [hknown, hother]
        · by_cases hmulti : plainLabel label ∈ multiByteLabels <;> simp [hknown, hother, hmulti]

theorem isKnownLabel_of_agreesWithUnits {bigEndian : Bool} (h : agreesWithUnits bigEndian label) :
    isKnownLabel label := by
  simp only [agreesWithUnits, Bool.or_eq_true, beq_iff_eq] at h
  rcases h with h | h
  · simp [isKnownLabel, h]
  · cases bigEndian <;> simp [isKnownLabel, h]

/-- In units of two bytes the same labels stop a reader. -/
theorem Layout.charsetOf_stopped_iff (layout : Layout) :
    (∃ r, layout.charsetOf label = .error r ∧ r ≠ .unreadable) ↔ IsForeign label := by
  rw [← Guarded.charsetOf_stopped_iff]
  cases layout with
  | singles => rfl
  | units bigEndian =>
      by_cases hagrees : agreesWithUnits bigEndian label
      · have hforeign : ¬ IsForeign label := fun h => h.1 (isKnownLabel_of_agreesWithUnits hagrees)
        rw [Guarded.charsetOf_stopped_iff]
        simp [Layout.charsetOf, hagrees, hforeign]
      · cases hcharset : Guarded.charsetOf label <;> simp [Layout.charsetOf, hagrees, hcharset]

theorem Layout.chars_stopped_iff (layout : Layout) :
    (∃ r, layout.chars bs = .error r ∧ r ≠ .unreadable) ↔
      ∃ label, layout.label? bs = some label ∧ IsForeign label := by
  unfold Layout.chars
  cases layout.label? bs with
  | none => simpa [bind, Except.bind, pure, Except.pure] using fun r => unreadable_of_orUnreadable
  | some label =>
      simp only [Option.some.injEq, exists_eq_left', ← layout.charsetOf_stopped_iff]
      -- behind the label only the bytes themselves can be at fault
      cases layout.charsetOf label with
      | ok charset => simpa [bind, Except.bind] using fun r => unreadable_of_orUnreadable
      | error r => simp [bind, Except.bind]

/-- A reader of bytes is stopped by something else than an unreadable document exactly if they name a
foreign character set. -/
theorem read_stopped_iff :
    (∃ r, read (.bytes bs) = .error r ∧ r ≠ .unreadable) ↔
      ∃ label, Names bs label ∧ IsForeign label := by
  simp only [← label?_of_iff_names]
  rw [← Layout.chars_stopped_iff]
  show _ ↔ ∃ r, chars (.bytes bs) = .error r ∧ _
  unfold read
  cases chars (.bytes bs) with
  | error r => simp [bind, Except.bind]
  | ok cs => simpa [bind, Except.bind] using fun r => unreadable_of_orUnreadable

end Conformity.Markup.Guarded
