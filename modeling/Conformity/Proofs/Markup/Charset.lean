import Conformity.Markup.Faithful
import Conformity.Markup.Guarded
import Conformity.Proofs.Markup.Comment
import Conformity.Proofs.Markup.Heading
import Conformity.Proofs.Work
import Conformity.Text.Blank

/-!
# Bytes of a document

Bytes that begin with a heading that tells UTF-8, or no character set, are read as UTF-8
(`Faithful.chars?_encode`). Every document holds the character that opens its root. So the characters
that a guarded reader takes from a source hold it (`Guarded.exists_chars_of_read`), and the bytes of the
source, taken for UTF-8 whatever their character set is, have text as well: they begin with something
that is no blank, or they really are UTF-8 (`Guarded.exists_not_isBlank`).
-/

namespace Conformity

/-! ## Bytes with a heading -/

namespace Markup

variable {text : List Char} {h : Heading}

/-- The heading tells UTF-8, or no character set. -/
def Heading.IsUtf8 (h : Heading) : Prop :=
  ∀ label ∈ h.encoding, label.map Char.toLower ∈ Faithful.utf8Labels

instance (h : Heading) : Decidable h.IsUtf8 := inferInstanceAs (Decidable (∀ label ∈ h.encoding, _))

theorem IsHeading.isAscii (hheading : IsHeading h text) : ∀ c ∈ text, c.toNat < 0x80 := by
  obtain ⟨body, rfl, hinner⟩ := hheading.exists_body
  have hclosing : ∀ c ∈ "?>".toList, c.toNat < 0x80 := forall_mem_of_all (by decide)
  exact List.forall_mem_append.mpr ⟨fun c hc => (hinner c hc).1, hclosing⟩

/-- A code is read as an ASCII character exactly if it is the code of this character. -/
theorem Heading.asciiChar_eq_iff {n : Nat} {c : Char} (hc : c.toNat < 0x80) :
    asciiChar n = c ↔ n = c.toNat := by
  unfold asciiChar
  split
  · next hn =>
    have hcode : (Char.ofNat n).toNat = n := by
      rw [Char.ofNat, dif_pos (.inl (by omega))]
      rfl
    rw [← Char.toNat_inj, hcode]
  · next hn =>
    refine iff_of_false ?_ (by omega)
    rintro rfl
    exact absurd hc (by decide)

/-- A heading is read from exactly the codes that begin with those of one. -/
theorem Heading.ofCodes?_eq_some_iff {codes : List Nat} : ofCodes? codes = some h ↔
    ∃ text rest, IsHeading h text ∧ codes = text.map Char.toNat ++ rest := by
  have hread : ofCodes? codes = some h ↔ ∃ behind, read? (codes.map asciiChar) = some (some h, behind) := by
    unfold ofCodes?
    split
    · next h' behind heq => simp [heq]
    · next hno =>
      refine iff_of_false (by simp) ?_
      rintro ⟨behind, heq⟩
      exact hno h behind heq
  simp only [hread, read?_eq_some_iff]
  constructor
  · rintro ⟨behind, text, hheading, hcodes⟩
    obtain ⟨front, rest, rfl, rfl, -⟩ := List.map_eq_append_iff.mp hcodes
    refine ⟨_, rest, hheading, ?_⟩
    have hcode : ∀ n ∈ front, (Char.toNat ∘ asciiChar) n = id n := by
      intro n hn
      have hascii := hheading.isAscii _ (List.mem_map_of_mem hn)
      exact ((asciiChar_eq_iff hascii).mp rfl).symm
    rw [List.map_map, List.map_congr_left hcode, List.map_id]
  · rintro ⟨text, rest, hheading, rfl⟩
    refine ⟨rest.map asciiChar, text, hheading, ?_⟩
    have hchar : ∀ c ∈ text, (asciiChar ∘ Char.toNat) c = id c :=
      fun c hc => (asciiChar_eq_iff (hheading.isAscii c hc)).mpr rfl
    rw [List.map_append, List.map_map, List.map_congr_left hchar, List.map_id]

/-- The bytes of a heading begin with this heading. -/
theorem Heading.ofBytes?_encode (hheading : IsHeading h text) (rest : List Char) :
    Heading.ofBytes? (Text.encode (text ++ rest)) = some h := by
  refine ofCodes?_eq_some_iff.mpr ⟨text, (Text.encode rest).map UInt8.toNat, hheading, ?_⟩
  rw [Text.encode_append, List.map_append, Text.map_toNat_encode hheading.isAscii]

namespace Faithful

/-- Bytes that begin with a heading that tells UTF-8 are read as UTF-8. -/
theorem chars?_encode (hheading : IsHeading h text) (hutf8 : h.IsUtf8) (rest : List Char) :
    chars? (Text.encode (text ++ rest)) = some (text ++ rest) := by
  have hsingles : chars? (Text.encode (text ++ rest)) =
      charsOfSingles? (Text.encode (text ++ rest)) := by
    obtain ⟨body, rfl, -⟩ := hheading.exists_body
    rfl
  have hdecode : Charset.utf8.decode? (Text.encode (text ++ rest)) = some (text ++ rest) :=
    Text.decode?_encode _
  rw [hsingles, charsOfSingles?, Heading.ofBytes?_encode hheading]
  cases hlabel : h.encoding with
  | none => simpa [hlabel] using hdecode
  | some label =>
      rw [Option.bind_some, hlabel]
      exact (if_pos (List.contains_iff_mem.mpr (hutf8 label hlabel))).trans hdecode

end Faithful

end Markup

/-! ## Bytes that are read leniently -/

namespace Text

/-- Bytes that can be read strictly are read in the same way leniently. -/
theorem decodeLenientFrom_eq {skip : Nat} {bs : Bytes} {cs : List Char}
    (h : decodeFrom skip bs = some cs) : decodeLenientFrom skip bs = cs := by
  fun_induction decodeFrom skip bs generalizing cs with
  | case1 skip =>
      cases h
      simp [decodeLenientFrom]
  | case2 skip b rest ih => exact ih h
  | case3 a rest c size hlead ih =>
      obtain ⟨ds, hds, rfl⟩ := Option.map_eq_some_iff.mp h
      rw [decodeLenientFrom, hlead]
      exact congrArg (c :: ·) (ih hds)
  | case4 a rest size hlead => cases h

theorem after?_eq_none_of_not_mem {c : Char} {beginning cs : List Char} (hc : c ∈ beginning)
    (h : c ∉ cs) : after? beginning cs = none := by
  cases hafter : after? beginning cs with
  | none => rfl
  | some rest =>
      rw [after?_eq_some_iff] at hafter
      rw [hafter] at h
      exact absurd (List.mem_append_left rest hc) h

end Text

namespace Markup

variable {edition : NameEdition} {cs : List Char}

/-! ## What opens the root -/

theorem mem_of_mem_plainLines {c : Char} (hc : c ≠ '\n') (h : c ∈ plainLines cs) : c ∈ cs := by
  fun_induction plainLines cs with
  | case1 cs ih =>
      have hmem := (List.mem_cons.mp h).resolve_left hc
      exact List.mem_cons_of_mem _ (List.mem_cons_of_mem _ (ih hmem))
  | case2 cs _ ih =>
      have hmem := (List.mem_cons.mp h).resolve_left hc
      exact List.mem_cons_of_mem _ (ih hmem)
  | case3 d cs _ _ ih =>
      rcases List.mem_cons.mp h with rfl | h
      · exact List.mem_cons_self
      · exact List.mem_cons_of_mem _ (ih h)
  | case4 => exact h

/-- Where nothing is opened, there are no comments and no instructions. -/
theorem miscellany_of_not_mem {fuel : Nat} (h : '<' ∉ cs) :
    miscellany edition (fuel + 1) [] cs = some ([], skipSpace cs) := by
  have hskip : '<' ∉ skipSpace cs := fun hmem => h ((List.dropWhile_sublist _).mem hmem)
  have hcomment : Text.after? "<!--".toList (skipSpace cs) = none :=
    Text.after?_eq_none_of_not_mem (by decide) hskip
  have hinstruction : Text.after? "<?".toList (skipSpace cs) = none :=
    Text.after?_eq_none_of_not_mem (by decide) hskip
  rw [miscellany]
  simp only [hcomment, hinstruction]
  rfl

/-- A document opens its root. -/
theorem Written.mem_of_document? {d : WrittenDocument} (h : document? edition cs = some d) :
    '<' ∈ cs := by
  by_contra hno
  have hplain : '<' ∉ plainLines cs := fun hmem => hno (mem_of_mem_plainLines (by decide) hmem)
  have hskip : '<' ∉ skipSpace (plainLines cs) :=
    fun hmem => hplain ((List.dropWhile_sublist _).mem hmem)
  have hheading : Heading.read? (plainLines cs) = some (none, plainLines cs) := by
    rw [Heading.read?, Text.after?_eq_none_of_not_mem (by decide) hplain]
  have hprolog : prolog? edition (plainLines cs) =
      some ([], none, [], skipSpace (plainLines cs)) := by
    rw [prolog?, miscellany_of_not_mem hplain, Option.bind_eq_bind, Option.bind_some]
    dsimp only
    rw [Text.after?_eq_none_of_not_mem (by decide) hskip]
    rfl
  have hbody : body? edition none (plainLines cs) = none := by
    have hroot : Text.after? ['<'] (skipSpace (plainLines cs)) = none :=
      Text.after?_eq_none_of_not_mem (by simp) hskip
    simp [body?, hprolog, hroot]
  rw [document?_eq, hheading, Option.bind_some, hbody] at h
  split at h <;> cases h

namespace Guarded

theorem orUnreadable_eq_ok_iff {α : Type} {x : Option α} {a : α} :
    orUnreadable x = .ok a ↔ x = some a := by
  cases x <;> simp [orUnreadable]

/-- What a reader takes from a document opens its root. -/
theorem exists_chars_of_read {source : Source} {root : Node} (h : read source = .ok root) :
    ∃ cs, chars source = .ok cs ∧ '<' ∈ cs := by
  obtain ⟨cs, hcs, h⟩ := bind_eq_ok.mp h
  obtain ⟨w, hwritten, -⟩ := Option.bind_eq_some_iff.mp (orUnreadable_eq_ok_iff.mp h)
  exact ⟨cs, hcs, Written.mem_of_document? hwritten⟩

/-! ## Layouts -/

/-- Single bytes that begin with a heading begin with the byte of the character that opens it. -/
theorem exists_eq_cons_of_label? {bs : Bytes} {label : String}
    (h : Layout.singles.label? bs = some label) : ∃ rest, bs = 0x3C :: rest := by
  obtain ⟨heading, hheading, -⟩ := Option.bind_eq_some_iff.mp h
  obtain ⟨text, behind, htext, heq⟩ := Heading.ofCodes?_eq_some_iff.mp hheading
  obtain ⟨body, rfl, -⟩ := htext.exists_body
  cases bs with
  | nil => cases heq
  | cons b rest =>
      have hcode : b.toNat = 0x3C := (List.cons.inj heq).1
      have hbyte : b = 0x3C := UInt8.toNat_inj.mp hcode
      exact ⟨rest, by rw [hbyte]⟩

/-- A zero belongs to no sequence of several bytes. -/
theorem lead_zero {b : UInt8} (h : 0x80 ≤ b.toNat) (rest : Bytes) :
    Text.lead b (0 :: rest) = .fault 1 := by
  have hno : ¬ b.toNat < 0x80 := by omega
  simp [Text.lead, Text.lead3, Text.lead4, Text.within, hno]

/-- A zero is no blank, and neither is what stands for a broken sequence before it. -/
theorem exists_not_isBlank_of_zero (b : UInt8) (rest : Bytes) :
    ∃ c ∈ Text.decodeLenient (b :: 0 :: rest), ¬ Text.isBlank c := by
  unfold Text.decodeLenient
  rw [Text.decodeLenientFrom]
  by_cases hb : b.toNat < 0x80
  · have hlead : Text.lead b (0 :: rest) = .char (Char.ofNat b.toNat) 1 := by simp [Text.lead, hb]
    rw [hlead]
    exact ⟨'\x00', List.mem_cons_of_mem _ List.mem_cons_self, by decide⟩
  · rw [lead_zero (by omega)]
    exact ⟨Text.replacementChar, List.mem_cons_self, by decide⟩

/-- Bytes in another layout, or behind a mark, are not blank as UTF-8. -/
theorem Layout.of_eq_or (bs : Bytes) :
    Layout.of bs = (.singles, bs) ∨ ∃ c ∈ Text.decodeLenient bs, ¬ Text.isBlank c := by
  unfold Layout.of
  split
  · exact .inr ⟨Text.replacementChar, List.mem_cons_self, by decide⟩
  · exact .inr ⟨Text.replacementChar, List.mem_cons_self, by decide⟩
  · exact .inr ⟨'\uFEFF', List.mem_cons_self, by decide⟩
  · exact .inr ⟨'\x00', List.mem_cons_self, by decide⟩
  · exact .inr (exists_not_isBlank_of_zero _ _)
  · exact .inl rfl

/-- Bytes that name a character set are not blank as UTF-8. -/
theorem exists_not_isBlank_of_label? {bs : Bytes} {label : String}
    (h : (Layout.of bs).1.label? (Layout.of bs).2 = some label) :
    ∃ c ∈ Text.decodeLenient bs, ¬ Text.isBlank c := by
  refine (Layout.of_eq_or bs).elim (fun hsingles => ?_) id
  rw [hsingles] at h
  obtain ⟨rest, rfl⟩ := exists_eq_cons_of_label? h
  exact ⟨'<', List.mem_cons_self, by decide⟩

/-- Bytes that a reader takes for a document are not blank as UTF-8, whatever their character set
is. -/
theorem exists_not_isBlank {bs : Bytes} {cs : List Char} (h : chars (.bytes bs) = .ok cs)
    (hroot : '<' ∈ cs) : ∃ c ∈ Text.decodeLenient bs, ¬ Text.isBlank c := by
  cases hlabel : (Layout.of bs).1.label? (Layout.of bs).2 with
  | some label => exact exists_not_isBlank_of_label? hlabel
  | none =>
      refine (Layout.of_eq_or bs).elim (fun hsingles => ?_) id
      -- without a label, what is read is UTF-8
      rw [hsingles] at hlabel
      simp only [chars, hsingles, Layout.chars, hlabel] at h
      have hdecode : Text.decode? bs = some cs := orUnreadable_eq_ok_iff.mp h
      refine ⟨'<', ?_, by decide⟩
      rw [Text.decodeLenient, Text.decodeLenientFrom_eq hdecode]
      exact hroot

end Guarded

end Markup

end Conformity
