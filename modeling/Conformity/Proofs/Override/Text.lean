import Conformity.Override
import Mathlib.Data.List.Infix

/-!
# Overrides as texts

The text of an override joins its parts, each bound behind a mark. The parts can be read back where
none of them holds the mark of a later one (`Override.Clear`); in general they cannot, for the whole
text of an override is also that of an override without bounds.
-/

namespace Conformity

/-! ## Marks -/

/-- A text that begins with the only colon it has. -/
def IsMark (p : List Char) : Prop := ∃ q, p = ':' :: q ∧ ':' ∉ q

/-- A text, and behind it a mark with another one. -/
def marked (p a : List Char) : Option (List Char) → List Char
  | none => a
  | some x => a ++ p ++ x

/-- What is in front of a mark ends where the mark comes first. -/
theorem IsMark.eq_nil {p a c r r' : List Char} (hp : IsMark p) (ha : ¬ p <:+: a ++ c)
    (h : p ++ r = c ++ p ++ r') : c = [] := by
  obtain ⟨q, rfl, hq⟩ := hp
  cases c with
  | nil => rfl
  | cons x c =>
      exfalso
      rw [List.append_assoc] at h
      rcases List.append_eq_append_iff.mp h with ⟨d, hd, -⟩ | ⟨d, hd, htail⟩
      · -- the mark lies within the text
        rw [hd] at ha
        exact ha (List.infix_append' a (':' :: q) d)
      · cases d with
        | nil =>
            rw [List.append_nil] at hd
            rw [← hd] at ha
            exact ha List.infix_append_right
        | cons y d =>
            -- the mark has a second colon
            rw [List.cons_append, List.cons_append] at htail
            obtain rfl : ':' = y := (List.cons.inj htail).1
            rw [List.cons_append] at hd
            refine hq ?_
            rw [(List.cons.inj hd).2]
            simp

theorem IsMark.append_inj {p a a' r r' : List Char} (hp : IsMark p) (ha : ¬ p <:+: a)
    (ha' : ¬ p <:+: a') (h : a ++ p ++ r = a' ++ p ++ r') : a = a' ∧ r = r' := by
  rw [List.append_assoc, List.append_assoc] at h
  rcases List.append_eq_append_iff.mp h with ⟨c, rfl, hc⟩ | ⟨c, rfl, hc⟩
  · obtain rfl := hp.eq_nil ha' (by rw [List.append_assoc]; exact hc)
    simp at hc ⊢
    exact hc
  · obtain rfl := hp.eq_nil ha (by rw [List.append_assoc]; exact hc)
    simp at hc ⊢
    exact hc.symm

/-- A text and what is marked behind it can be told apart, if the text does not hold the mark. -/
theorem IsMark.marked_inj {p a a' : List Char} {x x' : Option (List Char)} (hp : IsMark p)
    (ha : ¬ p <:+: a) (ha' : ¬ p <:+: a') (h : marked p a x = marked p a' x') : a = a' ∧ x = x' := by
  cases x with
  | none =>
      cases x' with
      | none => exact ⟨h, rfl⟩
      | some y =>
          refine absurd ?_ ha
          rw [show a = a' ++ p ++ y from h]
          exact List.infix_append a' p y
  | some x =>
      cases x' with
      | none =>
          refine absurd ?_ ha'
          rw [← show a ++ p ++ x = a' from h]
          exact List.infix_append a p x
      | some y =>
          obtain ⟨rfl, rfl⟩ := hp.append_inj ha ha' h
          exact ⟨rfl, rfl⟩

/-- Behind a text that does not hold a mark, a mark begins only with the colon of what follows. -/
theorem IsMark.not_infix_append {p a b : List Char} (hp : IsMark p) (ha : ¬ p <:+: a)
    (hb : ¬ p <:+: ':' :: b) : ¬ p <:+: a ++ ':' :: b := by
  obtain ⟨q, rfl, hq⟩ := hp
  rw [List.infix_append_iff_ne_nil]
  rintro (h | h | ⟨l, m, hl, hm, heq, -, hprefix⟩)
  · exact ha h
  · exact hb h
  · -- the second part of the mark would have a colon
    obtain ⟨x, l, rfl⟩ := List.exists_cons_of_ne_nil hl
    obtain ⟨y, m, rfl⟩ := List.exists_cons_of_ne_nil hm
    obtain rfl : y = ':' := (List.cons_prefix_cons.mp hprefix).1
    refine hq ?_
    rw [(List.cons.inj heq).2]
    simp

namespace Override

/-! ## Reading overrides back -/

/-- What is in front of a lower bound. -/
def minMark : List Char := [':', 'm', 'i', 'n', '=']

/-- What is in front of an upper bound. -/
def maxMark : List Char := [':', 'm', 'a', 'x', '=']

theorem isMark_minMark : IsMark minMark := ⟨_, rfl, by decide⟩

theorem isMark_maxMark : IsMark maxMark := ⟨_, rfl, by decide⟩

/-- No part of an override holds the mark of a later part. -/
structure Clear (o : Override) : Prop where
  element_min : ¬ minMark <:+: o.element.toList
  element_max : ¬ maxMark <:+: o.element.toList
  min_max : ∀ m, o.minOccurs = some m → ¬ maxMark <:+: m.toList

theorem text_toList (o : Override) : o.text.toList =
    marked maxMark (marked minMark o.element.toList (o.minOccurs.map String.toList))
      (o.maxOccurs.map String.toList) := by
  obtain ⟨element, min, max⟩ := o
  cases min <;> cases max <;> simp [text, marked, minMark, maxMark]

theorem Clear.not_maxMark {o : Override} (h : o.Clear) :
    ¬ maxMark <:+: marked minMark o.element.toList (o.minOccurs.map String.toList) := by
  cases hmin : o.minOccurs with
  | none => exact h.element_max
  | some m =>
      rw [Option.map_some, marked, List.append_assoc]
      refine isMark_maxMark.not_infix_append h.element_max ?_
      have hm := h.min_max m hmin
      simpa [maxMark, minMark, List.infix_cons_iff, List.cons_prefix_cons] using hm

/-- Overrides that can be read back are told apart by their texts. -/
theorem Clear.text_inj {o o' : Override} (h : o.Clear) (h' : o'.Clear) (heq : o.text = o'.text) :
    o = o' := by
  have hlist := congrArg String.toList heq
  rw [text_toList, text_toList] at hlist
  obtain ⟨hfront, hmax⟩ := isMark_maxMark.marked_inj h.not_maxMark h'.not_maxMark hlist
  obtain ⟨helement, hmin⟩ := isMark_minMark.marked_inj h.element_min h'.element_min hfront
  have inj : Function.Injective (Option.map String.toList) :=
    Option.map_injective fun _ _ => String.toList_inj.mp
  obtain ⟨element, min, max⟩ := o
  obtain ⟨element', min', max'⟩ := o'
  obtain rfl := String.toList_inj.mp helement
  obtain rfl := inj hmin
  obtain rfl := inj hmax
  rfl

/-! ## Texts that can be read in several ways -/

/-- An override without bounds, for an element that no schema refers to, with the same text. -/
def twin (o : Override) : Override := ⟨o.text, none, none⟩

@[simp] theorem text_twin (o : Override) : o.twin.text = o.text := by
  simp [twin, text]

/-- The text of an override has no mark. -/
structure Unmarked (o : Override) : Prop where
  not_min : ¬ minMark <:+: o.text.toList
  not_max : ¬ maxMark <:+: o.text.toList

theorem Unmarked.congr {o o' : Override} (h : o.Unmarked) (htext : o'.text = o.text) :
    o'.Unmarked := by
  constructor
  · rw [htext]
    exact h.not_min
  · rw [htext]
    exact h.not_max

/-- A bound leaves its mark in the text. -/
theorem Unmarked.bounds {o : Override} (h : o.Unmarked) :
    o.minOccurs = none ∧ o.maxOccurs = none := by
  obtain ⟨element, min, max⟩ := o
  obtain ⟨hmin, hmax⟩ := h
  rw [text_toList] at hmin hmax
  cases max with
  | some m => exact absurd (List.infix_append _ maxMark m.toList) hmax
  | none =>
      cases min with
      | some m => exact absurd (List.infix_append element.toList minMark m.toList) hmin
      | none => exact ⟨rfl, rfl⟩

/-- A text with a mark is that of an override with a bound. -/
theorem exists_bound_of_not_unmarked {o : Override} (h : ¬ o.Unmarked) :
    ∃ o' : Override, o'.text = o.text ∧ (o'.minOccurs, o'.maxOccurs) ≠ (none, none) := by
  by_cases hmin : minMark <:+: o.text.toList
  · obtain ⟨a, b, hab⟩ := hmin
    refine ⟨⟨String.ofList a, some (String.ofList b), none⟩, ?_, by simp⟩
    apply String.toList_inj.mp
    rw [text_toList, ← hab]
    simp [marked]
  · by_cases hmax : maxMark <:+: o.text.toList
    · obtain ⟨a, b, hab⟩ := hmax
      refine ⟨⟨String.ofList a, none, some (String.ofList b)⟩, ?_, by simp⟩
      apply String.toList_inj.mp
      rw [text_toList, ← hab]
      simp [marked]
    · exact absurd ⟨hmin, hmax⟩ h

end Override

end Conformity
