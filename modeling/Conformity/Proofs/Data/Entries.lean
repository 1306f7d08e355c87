import Conformity.Data.Checked
import Conformity.Proofs.Data.Bare
import Mathlib.Data.List.Basic

/-!
# Changing entries

Setting a key keeps its place, or makes it the last one (`Data.keys_insert`); setting and removing a
key leave the other entries as they are. A mapping that is replaced wherever it occurs is replaced in
one entry only if no other entry mentions it (`Data.bareEntries_replaceEntries`).
-/

namespace Conformity

@[simp] theorem Scalar.bare_bare (s : Scalar) : s.bare.bare = s.bare := by cases s <;> rfl

namespace Data

variable {es : Fields} {key name : String} {value : Data}

/-! ## Keys -/

/-- The keys of entries, without labels. -/
def keys (es : Fields) : List Scalar := es.map fun e => e.1.bare

@[simp] theorem keys_bareEntries (es : Fields) : keys (bareEntries es) = keys es := by
  rw [bareEntries_eq_map, keys, List.map_map]
  simp [keys, Function.comp_def]

/-- A text is a key exactly if it has a value. -/
theorem text_mem_keys_iff : .text name ∈ keys es ↔ (field name es).isSome := by
  induction es with
  | nil => simp [keys, field, lookup]
  | cons e es ih =>
      rw [field_cons, keys, List.map_cons, List.mem_cons]
      by_cases he : e.1 = .text name
      · rw [if_pos he, he]
        exact iff_of_true (.inl rfl) rfl
      · rw [if_neg he, ← ih]
        refine or_iff_right fun heq => he ?_
        cases hkey : e.1 with
        | text s =>
            rw [hkey] at heq
            exact heq.symm
        | _ =>
            rw [hkey] at heq
            cases heq

theorem keys_insert (name : String) (value : Data) (es : Fields) :
    keys (insert (.text name) value es) =
      if (field name es).isSome then keys es else keys es ++ [.text name] := by
  induction es with
  | nil => rfl
  | cons e es ih =>
      rw [insert, field_cons]
      by_cases he : e.1 = .text name
      · rw [if_pos (Scalar.sameKey_text_iff.mpr he), if_pos he]
        rfl
      · rw [if_neg (mt Scalar.sameKey_text_iff.mp he), if_neg he]
        show e.1.bare :: keys (insert (.text name) value es) = _
        rw [ih]
        split <;> rfl

theorem keys_erase (name : String) (es : Fields) :
    keys (erase (.text name) es) = (keys es).filter fun k => !(Scalar.text name).sameKey k := by
  unfold keys erase
  rw [List.filter_map]
  simp [Function.comp_def]

/-! ## The other entries -/

@[simp] theorem erase_insert (name : String) (value : Data) (es : Fields) :
    erase (.text name) (insert (.text name) value es) = erase (.text name) es := by
  have hself : (Scalar.text name).sameKey (.text name) = true := Scalar.sameKey_text_iff.mpr rfl
  induction es with
  | nil => simp [insert, erase, hself]
  | cons e es ih =>
      rw [insert]
      by_cases he : (Scalar.text name).sameKey e.1
      · simp [erase, he]
      · rw [if_neg he]
        unfold erase at ih ⊢
        rw [List.filter_cons, List.filter_cons, ih]

theorem erase_of_field_eq_none (h : field name es = none) : erase (.text name) es = es := by
  refine List.filter_eq_self.mpr fun e he => ?_
  have hne : e.1 ≠ .text name := by
    intro heq
    have hmem : Scalar.text name ∈ keys es := List.mem_map.mpr ⟨e, he, by rw [heq]; rfl⟩
    rw [text_mem_keys_iff, h] at hmem
    cases hmem
  simpa using mt Scalar.sameKey_text_iff.mp hne

theorem field_erase_of_ne (h : name ≠ key) (es : Fields) :
    field key (erase (.text name) es) = field key es := by
  induction es with
  | nil => rfl
  | cons e es ih =>
      unfold erase at ih ⊢
      rw [List.filter_cons, field_cons]
      by_cases he : e.1 = .text name
      · have hne : e.1 ≠ .text key := fun heq => h (Scalar.text.inj (he.symm.trans heq))
        rw [if_neg (by simpa using Scalar.sameKey_text_iff.mpr he), ih, if_neg hne]
      · have hother : (!(Scalar.text name).sameKey e.1) = true := by
          simpa using mt Scalar.sameKey_text_iff.mp he
        rw [if_pos hother, field_cons, ih]

@[simp] theorem bareEntries_insert (name : String) (value : Data) (es : Fields) :
    bareEntries (insert (.text name) value es) = insert (.text name) value.bare (bareEntries es) := by
  induction es with
  | nil => rfl
  | cons e es ih =>
      obtain ⟨k, d⟩ := e
      rw [insert, bareEntries, insert, Scalar.sameKey_bare]
      split <;> simp [bareEntries, ih]

@[simp] theorem bareEntries_erase (name : String) (es : Fields) :
    bareEntries (erase (.text name) es) = erase (.text name) (bareEntries es) := by
  unfold erase
  rw [bareEntries_eq_map, bareEntries_eq_map, List.filter_map]
  simp [Function.comp_def]

/-! ## Mappings that are mentioned in several places -/

mutual

/-- Does the mapping with a label occur in a value? -/
def mentions (label : Nat) : Data → Bool
  | list _ xs => anyMentions label xs
  | map l es => l == label || anyEntryMentions label es
  | pair _ a b => mentions label a || mentions label b
  | _ => false

/-- Does the mapping with a label occur in one of the items? -/
def anyMentions (label : Nat) : List Data → Bool
  | [] => false
  | x :: xs => mentions label x || anyMentions label xs

/-- Does the mapping with a label occur in one of the values? -/
def anyEntryMentions (label : Nat) : List (Scalar × Data) → Bool
  | [] => false
  | (_, x) :: es => mentions label x || anyEntryMentions label es

end

variable {label : Nat} {records : Fields}

mutual

theorem replace_of_not_mentions : ∀ {d : Data}, mentions label d = false → replace label records d = d
  | list _ xs, h => by rw [replace, replaceAll_of_not_mentions h]
  | map l es, h => by
    rw [mentions, Bool.or_eq_false_iff, beq_eq_false_iff_ne] at h
    rw [replace, if_neg h.1, replaceEntries_of_not_mentions h.2]
  | pair _ a b, h => by
    rw [mentions, Bool.or_eq_false_iff] at h
    rw [replace, replace_of_not_mentions h.1, replace_of_not_mentions h.2]
  | scalar _, _ | set .., _ | knot .., _ => rfl

theorem replaceAll_of_not_mentions :
    ∀ {xs : List Data}, anyMentions label xs = false → replaceAll label records xs = xs
  | [], _ => rfl
  | x :: xs, h => by
    rw [anyMentions, Bool.or_eq_false_iff] at h
    rw [replaceAll, replace_of_not_mentions h.1, replaceAll_of_not_mentions h.2]

theorem replaceEntries_of_not_mentions :
    ∀ {es : List (Scalar × Data)}, anyEntryMentions label es = false →
      replaceEntries label records es = es
  | [], _ => rfl
  | (k, x) :: es, h => by
    rw [anyEntryMentions, Bool.or_eq_false_iff] at h
    rw [replaceEntries, replace_of_not_mentions h.1, replaceEntries_of_not_mentions h.2]

end

/-- In how many of the values does the mapping with a label occur? -/
def mentionCount (label : Nat) (es : Fields) : Nat := es.countP fun e => e.2.mentions label

theorem anyEntryMentions_eq_false (h : mentionCount label es = 0) :
    anyEntryMentions label es = false := by
  induction es with
  | nil => rfl
  | cons e es ih =>
      rw [mentionCount, List.countP_cons, Nat.add_eq_zero_iff] at h
      rw [anyEntryMentions, ih h.1, Bool.or_false]
      by_contra hmentions
      simp [hmentions] at h

theorem mentionCount_pos {fields : Fields} (h : field key es = some (.map label fields)) :
    0 < mentionCount label es := by
  induction es with
  | nil => cases h
  | cons e es ih =>
      rw [field_cons] at h
      rw [mentionCount, List.countP_cons]
      split at h
      · have hself : e.2.mentions label = true := by
          rw [Option.some.inj h, mentions, beq_self_eq_true, Bool.true_or]
        simp [hself]
      · exact Nat.lt_add_right _ (ih h)

/-- A mapping that one entry mentions is replaced in this entry. -/
theorem bareEntries_replaceEntries {fields : Fields} (h : field key es = some (.map label fields))
    (honce : mentionCount label es ≤ 1) : bareEntries (replaceEntries label records es) =
      insert (.text key) (.map 0 (bareEntries records)) (bareEntries es) := by
  induction es with
  | nil => cases h
  | cons e es ih =>
      obtain ⟨k, d⟩ := e
      rw [field_cons] at h
      rw [mentionCount, List.countP_cons] at honce
      rw [replaceEntries, bareEntries, bareEntries, insert]
      by_cases hk : k = .text key
      · -- the mapping stands here, and so in none of the other entries
        rw [if_pos hk] at h
        obtain rfl : d = .map label fields := Option.some.inj h
        have hothers : mentionCount label es = 0 := by
          rw [mentions, beq_self_eq_true, Bool.true_or, if_pos rfl] at honce
          exact Nat.le_zero.mp (Nat.le_of_succ_le_succ honce)
        rw [replaceEntries_of_not_mentions (anyEntryMentions_eq_false hothers), replace, if_pos rfl,
          if_pos (by rw [Scalar.sameKey_bare]; exact Scalar.sameKey_text_iff.mpr hk)]
        rfl
      · rw [if_neg hk] at h
        have hlater : 0 < mentionCount label es := mentionCount_pos h
        have hhere : d.mentions label = false := by
          by_contra hmentions
          rw [if_pos (by simpa using hmentions)] at honce
          unfold mentionCount at hlater
          omega
        have hrest : mentionCount label es ≤ 1 := Nat.le_trans (Nat.le_add_right _ _) honce
        rw [replace_of_not_mentions hhere, ih h hrest,
          if_neg (by rw [Scalar.sameKey_bare]; exact mt Scalar.sameKey_text_iff.mp hk)]

/-! ## Values without labels and knots -/

mutual

/-- Has a value neither labels nor knots, as one that was not read? -/
def isFresh : Data → Bool
  | scalar s => s.bare == s
  | list l xs => l == 0 && areFresh xs
  | map l es => l == 0 && areFreshEntries es
  | set l ms => l == 0 && ms.map Scalar.bare == ms
  | pair l a b => l == 0 && isFresh a && isFresh b
  | knot .. => false

/-- Has none of the items labels or knots? -/
def areFresh : List Data → Bool
  | [] => true
  | x :: xs => isFresh x && areFresh xs

/-- Has none of the entries labels or knots? -/
def areFreshEntries : List (Scalar × Data) → Bool
  | [] => true
  | (k, x) :: es => k.bare == k && isFresh x && areFreshEntries es

end

mutual

theorem bare_of_isFresh : ∀ {d : Data}, d.isFresh → d.bare = d
  | scalar s, h => by rw [bare, beq_iff_eq.mp h]
  | list l xs, h => by
    rw [isFresh, Bool.and_eq_true, beq_iff_eq] at h
    rw [bare, h.1, bareAll_of_areFresh h.2]
  | map l es, h => by
    rw [isFresh, Bool.and_eq_true, beq_iff_eq] at h
    rw [bare, h.1, bareEntries_of_areFresh h.2]
  | set l ms, h => by
    rw [isFresh, Bool.and_eq_true, beq_iff_eq, beq_iff_eq] at h
    rw [bare, h.1, h.2]
  | pair l a b, h => by
    rw [isFresh, Bool.and_eq_true, Bool.and_eq_true, beq_iff_eq] at h
    rw [bare, h.1.1, bare_of_isFresh h.1.2, bare_of_isFresh h.2]

theorem bareAll_of_areFresh : ∀ {xs : List Data}, areFresh xs → bareAll xs = xs
  | [], _ => rfl
  | x :: xs, h => by
    rw [areFresh, Bool.and_eq_true] at h
    rw [bareAll, bare_of_isFresh h.1, bareAll_of_areFresh h.2]

theorem bareEntries_of_areFresh : ∀ {es : Fields}, areFreshEntries es → bareEntries es = es
  | [], _ => rfl
  | (k, x) :: es, h => by
    rw [areFreshEntries, Bool.and_eq_true, Bool.and_eq_true, beq_iff_eq] at h
    rw [bareEntries, h.1.1, bare_of_isFresh h.1.2, bareEntries_of_areFresh h.2]

end

mutual

theorem isKnotless_of_isFresh : ∀ {d : Data}, d.isFresh → d.isKnotless
  | list l xs, h => by
    rw [isFresh, Bool.and_eq_true] at h
    exact isKnotlessAll_of_areFresh h.2
  | map l es, h => by
    rw [isFresh, Bool.and_eq_true] at h
    exact isKnotlessEntries_of_areFresh h.2
  | pair l a b, h => by
    rw [isFresh, Bool.and_eq_true, Bool.and_eq_true] at h
    rw [isKnotless, isKnotless_of_isFresh h.1.2, isKnotless_of_isFresh h.2]
    rfl
  | scalar _, _ | set .., _ => rfl

theorem isKnotlessAll_of_areFresh : ∀ {xs : List Data}, areFresh xs → isKnotlessAll xs
  | [], _ => rfl
  | x :: xs, h => by
    rw [areFresh, Bool.and_eq_true] at h
    rw [isKnotlessAll, isKnotless_of_isFresh h.1, isKnotlessAll_of_areFresh h.2]
    rfl

theorem isKnotlessEntries_of_areFresh :
    ∀ {es : List (Scalar × Data)}, areFreshEntries es → isKnotlessEntries es
  | [], _ => rfl
  | (k, x) :: es, h => by
    rw [areFreshEntries, Bool.and_eq_true, Bool.and_eq_true] at h
    rw [isKnotlessEntries, isKnotless_of_isFresh h.1.2, isKnotlessEntries_of_areFresh h.2]
    rfl

end

mutual

theorem not_mentions_of_isFresh (hlabel : label ≠ 0) :
    ∀ {d : Data}, d.isFresh → d.mentions label = false
  | list l xs, h => by
    rw [isFresh, Bool.and_eq_true] at h
    exact not_anyMentions_of_areFresh hlabel h.2
  | map l es, h => by
    rw [isFresh, Bool.and_eq_true, beq_iff_eq] at h
    rw [mentions, h.1, not_anyEntryMentions_of_areFresh hlabel h.2, Bool.or_false,
      beq_eq_false_iff_ne]
    exact hlabel.symm
  | pair l a b, h => by
    rw [isFresh, Bool.and_eq_true, Bool.and_eq_true] at h
    rw [mentions, not_mentions_of_isFresh hlabel h.1.2, not_mentions_of_isFresh hlabel h.2]
    rfl
  | scalar _, _ | set .., _ => rfl

theorem not_anyMentions_of_areFresh (hlabel : label ≠ 0) :
    ∀ {xs : List Data}, areFresh xs → anyMentions label xs = false
  | [], _ => rfl
  | x :: xs, h => by
    rw [areFresh, Bool.and_eq_true] at h
    rw [anyMentions, not_mentions_of_isFresh hlabel h.1, not_anyMentions_of_areFresh hlabel h.2]
    rfl

theorem not_anyEntryMentions_of_areFresh (hlabel : label ≠ 0) :
    ∀ {es : List (Scalar × Data)}, areFreshEntries es → anyEntryMentions label es = false
  | [], _ => rfl
  | (k, x) :: es, h => by
    rw [areFreshEntries, Bool.and_eq_true, Bool.and_eq_true] at h
    rw [anyEntryMentions, not_mentions_of_isFresh hlabel h.1.2,
      not_anyEntryMentions_of_areFresh hlabel h.2]
    rfl

end

@[simp] theorem isFresh_text (s : String) : (text s).isFresh := beq_self_eq_true (Scalar.text s)

@[simp] theorem isFresh_ofText? (s : Option String) : (ofText? s).isFresh := by
  cases s with
  | none => exact beq_self_eq_true Scalar.null
  | some s => exact isFresh_text s

theorem isFresh_ofList {xs : List Data} (h : ∀ x ∈ xs, x.isFresh) : (ofList xs).isFresh := by
  show (true && areFresh xs) = true
  induction xs with
  | nil => rfl
  | cons x xs ih =>
      rw [List.forall_mem_cons] at h
      rw [areFresh, h.1]
      exact ih h.2

theorem isFresh_ofEntries {es : List (String × Data)} (h : ∀ e ∈ es, e.2.isFresh) :
    (ofEntries es).isFresh := by
  show (true && areFreshEntries (es.map fun e => (Scalar.text e.1, e.2))) = true
  induction es with
  | nil => rfl
  | cons e es ih =>
      rw [List.forall_mem_cons] at h
      have hkey : ((Scalar.text e.1).bare == Scalar.text e.1) = true := beq_self_eq_true _
      rw [List.map_cons, areFreshEntries, h.1, hkey]
      exact ih h.2

end Data

end Conformity
