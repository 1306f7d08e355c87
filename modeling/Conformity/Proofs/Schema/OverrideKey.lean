import Conformity.Proofs.Override.Text
import Conformity.Proofs.Text.Order
import Conformity.Schema.Overridden

/-!
# When a key stands for one schema

Schemas with overrides are kept under a key that holds the texts of the overrides in order. What the
overrides make of a schema depends on the last one for each element (`Overridden.modified_eq_iff`),
which the key does not tell where an element has several, and a text may be that of several
overrides. So few keys stand for one schema (`Overridden.key_sound_iff`). Among overrides that can
be read back from their texts, they are those of the lists in which all overrides of an element do
the same.
-/

namespace Conformity.Overridden

open Markup

/-! ## What overrides do to an element -/

/-- The bounds that an override sets; nothing if they cannot be written. -/
def effect (o : Override) : Option (Option String × Option String) :=
  if o.minOccurs.all isWritable && o.maxOccurs.all isWritable then some (o.minOccurs, o.maxOccurs)
  else none

/-- The bounds that overrides set at the references to an element. -/
def effectOn (os : List Override) (element : String) : Option (Option String × Option String) :=
  ((last? os element).map effect).getD (some (none, none))

/-- An attribute that is given, if it is. -/
def withBound (base : String) (value : Option String) (as : List Attribute) : List Attribute :=
  (value.map fun v => Node.setAttribute base v as).getD as

/-- Attributes with bounds. -/
def withBounds (b : Option String × Option String) (as : List Attribute) : List Attribute :=
  withBound "maxOccurs" b.2 (withBound "minOccurs" b.1 as)

/-- A schema's tree with overrides; nothing if they cannot be written. -/
def modified (os : List Override) (root : Node) : Option Node := (node os root).toOption

variable {os xs ys : List Override}

theorem toOption_bind {ε α β : Type} (x : Except ε α) (f : α → Except ε β) :
    (x >>= f).toOption = x.toOption.bind fun a => (f a).toOption := by
  cases x <;> rfl

theorem setBound_toOption (base : String) (value : Option String) (as : List Attribute) :
    (setBound base value as).toOption =
      if value.all isWritable then some (withBound base value as) else none := by
  cases value with
  | none => rfl
  | some v =>
      simp only [setBound, writable, Option.all_some]
      split <;> rfl

theorem overriddenAttributes_toOption (os : List Override) (name : Name) (as : List Attribute) :
    (overriddenAttributes os name as).toOption =
      match reference? name as with
      | none => some as
      | some element => (effectOn os element).map fun b => withBounds b as := by
  unfold overriddenAttributes
  cases reference? name as with
  | none => rfl
  | some element =>
      simp only [Option.bind_some, effectOn]
      cases last? os element with
      | none => rfl
      | some o =>
          simp only [toOption_bind, setBound_toOption, effect, Option.map_some, Option.getD_some]
          cases o.minOccurs.all isWritable <;> cases o.maxOccurs.all isWritable <;> rfl

/-! ## What overrides do to a schema -/

mutual

/-- Overrides that do the same to every element do the same to every schema. -/
theorem node_congr (h : ∀ element, effectOn xs element = effectOn ys element) :
    ∀ n, (node xs n).toOption = (node ys n).toOption
  | .element name declared attributes children => by
      simp only [node, toOption_bind, overriddenAttributes_toOption, h, nodes_congr h children]
  | .text _ => rfl
  | .entity _ => rfl
  | .comment _ => rfl
  | .instruction _ _ => rfl

theorem nodes_congr (h : ∀ element, effectOn xs element = effectOn ys element) :
    ∀ ns, (nodes xs ns).toOption = (nodes ys ns).toOption
  | [] => rfl
  | n :: ns => by
      simp only [nodes, toOption_bind, node_congr h n, nodes_congr h ns]

end

/-- A schema that refers to an element and does nothing else. -/
def probe (element : String) : Node :=
  .element ⟨some schemaSpace, none, "element"⟩ [] [{ name := { base := "ref" }, value := element }] []

theorem modified_probe (os : List Override) (element : String) : modified os (probe element) =
    (effectOn os element).map fun b => .element ⟨some schemaSpace, none, "element"⟩ []
      (withBounds b [{ name := { base := "ref" }, value := element }]) [] := by
  have href : reference? ⟨some schemaSpace, none, "element"⟩
      [{ name := { base := "ref" }, value := element }] = some element := by
    simp [reference?, Name.isIn, Node.attribute?, Name.isPlain]
  simp only [modified, probe, node, toOption_bind, overriddenAttributes_toOption, href]
  cases effectOn os element <;> rfl

theorem withBounds_inj {a : Attribute} (ha : a.name = { base := "ref" })
    {b b' : Option String × Option String} (h : withBounds b [a] = withBounds b' [a]) : b = b' := by
  obtain ⟨min, max⟩ := b
  obtain ⟨min', max'⟩ := b'
  cases min <;> cases max <;> cases min' <;> cases max' <;>
    simp_all [withBounds, withBound, Node.setAttribute, Name.isPlain]

/-- Overrides make the same of every schema exactly if they do the same to every element. -/
theorem modified_eq_iff : (∀ root, modified xs root = modified ys root) ↔
    ∀ element, effectOn xs element = effectOn ys element := by
  constructor
  · intro h element
    have hprobe := h (probe element)
    rw [modified_probe, modified_probe] at hprobe
    refine Option.map_injective ?_ hprobe
    intro b b' hb
    injection hb with _ _ has
    exact withBounds_inj rfl has
  · exact fun h root => node_congr h root

/-- What overrides make of the tree of a schema decides what they make of the schema. -/
theorem apply_congr (h : ∀ root, modified xs root = modified ys root) (source : Bytes) :
    (apply source xs).map Prod.fst = (apply source ys).map Prod.fst := by
  unfold apply
  cases Faithful.read? source with
  | none => rfl
  | some d =>
      have hroot : (node xs d.root).toOption = (node ys d.root).toOption := h d.root
      dsimp only
      cases hx : node xs d.root with
      | ok r =>
          cases hy : node ys d.root with
          | ok r' =>
              rw [hx, hy] at hroot
              cases hroot
              rfl
          | error _ =>
              rw [hx, hy] at hroot
              cases hroot
      | error _ =>
          cases hy : node ys d.root with
          | ok r' =>
              rw [hx, hy] at hroot
              cases hroot
          | error _ => rfl

/-! ## The override that counts -/

theorem last?_eq_some {element : String} {o : Override} (h : last? os element = some o) :
    o ∈ os ∧ o.element = element := by
  refine ⟨List.mem_reverse.mp (List.mem_of_find?_eq_some h), ?_⟩
  simpa using List.find?_some h

theorem last?_eq_none {element : String} :
    last? os element = none ↔ ∀ o ∈ os, o.element ≠ element := by
  simp [last?]

theorem last?_append (os : List Override) (o : Override) : last? (os ++ [o]) o.element = some o := by
  simp [last?]

theorem effectOn_append (os : List Override) (o : Override) :
    effectOn (os ++ [o]) o.element = effect o := by
  rw [effectOn, last?_append]
  rfl

/-- All overrides of an element do the same. -/
def Consistent (os : List Override) : Prop :=
  ∀ o ∈ os, ∀ o' ∈ os, o.element = o'.element → effect o = effect o'

/-- Where all overrides of an element do the same, each of them counts. -/
theorem Consistent.effectOn_eq (h : Consistent os) {o : Override} (ho : o ∈ os) :
    effectOn os o.element = effect o := by
  unfold effectOn
  cases hlast : last? os o.element with
  | none => exact absurd rfl (last?_eq_none.mp hlast o ho)
  | some o' =>
      obtain ⟨hmem, helement⟩ := last?_eq_some hlast
      exact h o' hmem o ho helement

theorem Consistent.effectOn_congr (h : Consistent xs) (hmem : ∀ o, o ∈ xs ↔ o ∈ ys)
    (element : String) : effectOn xs element = effectOn ys element := by
  cases hlast : last? ys element with
  | none =>
      have hnone : last? xs element = none :=
        last?_eq_none.mpr fun o ho => last?_eq_none.mp hlast o ((hmem o).mp ho)
      rw [effectOn, effectOn, hlast, hnone]
  | some o =>
      obtain ⟨ho, rfl⟩ := last?_eq_some hlast
      rw [h.effectOn_eq ((hmem o).mpr ho), effectOn, hlast]
      rfl

/-! ## Keys -/

/-- A key tells which texts the overrides have, and how often. -/
theorem key_eq_iff {t t' : String} :
    OverrideKey.of t xs = OverrideKey.of t' ys ↔
      t = t' ∧ (xs.map Override.text).Perm (ys.map Override.text) := by
  rw [OverrideKey.of, OverrideKey.of, OverrideKey.mk.injEq, Text.sorted_eq_sorted_iff]

theorem key_eq_of_perm {t : String} (h : xs.Perm ys) : OverrideKey.of t xs = OverrideKey.of t ys :=
  key_eq_iff.mpr ⟨rfl, h.map _⟩

/-- Lists of overrides that can be read back have the same overrides if they have one key. -/
theorem mem_iff_of_key_eq {t t' : String} (hx : ∀ o ∈ xs, o.Clear) (hy : ∀ o ∈ ys, o.Clear)
    (h : OverrideKey.of t xs = OverrideKey.of t' ys) (o : Override) : o ∈ xs ↔ o ∈ ys := by
  have hperm := (key_eq_iff.mp h).2
  constructor
  · intro ho
    obtain ⟨o', ho', htext⟩ := List.mem_map.mp (hperm.subset (List.mem_map_of_mem ho))
    rwa [← (hy o' ho').text_inj (hx o ho) htext]
  · intro ho
    obtain ⟨o', ho', htext⟩ := List.mem_map.mp (hperm.symm.subset (List.mem_map_of_mem ho))
    rwa [← (hx o' ho').text_inj (hy o ho) htext]

/-- A list whose key stands for one schema has no two overrides that differ in what they do to an
element: each of them is the last one in some order. -/
theorem consistent_of_sound
    (h : ∀ zs, zs.Perm xs → ∀ root, modified zs root = modified xs root) : Consistent xs := by
  have hlast : ∀ o ∈ xs, effect o = effectOn xs o.element := by
    intro o ho
    have hperm : (xs.erase o ++ [o]).Perm xs :=
      (List.perm_append_singleton _ _).trans (List.perm_cons_erase ho).symm
    rw [← modified_eq_iff.mp (h _ hperm) o.element, effectOn_append]
  intro o ho o' ho' helement
  rw [hlast o ho, hlast o' ho', helement]

/-- Overrides without bounds do nothing. -/
theorem effectOn_of_bounds (h : ∀ o ∈ os, o.minOccurs = none ∧ o.maxOccurs = none)
    (element : String) : effectOn os element = some (none, none) := by
  unfold effectOn
  cases hlast : last? os element with
  | none => rfl
  | some o =>
      obtain ⟨hmin, hmax⟩ := h o (last?_eq_some hlast).1
      simp [effect, hmin, hmax]

theorem effect_ne {o : Override} (h : (o.minOccurs, o.maxOccurs) ≠ (none, none)) :
    effect o ≠ some (none, none) := by
  unfold effect
  split
  · exact fun heq => h (Option.some.inj heq)
  · simp

/-- If a text has a mark, lists with its key make different schemas: in one of them it is the text
of an override that does nothing, in another it ends with a bound. -/
theorem unmarked_of_sound (t : String)
    (h : ∀ ys, OverrideKey.of t ys = OverrideKey.of t xs →
      ∀ root, modified ys root = modified xs root) : ∀ o ∈ xs, o.Unmarked := by
  intro o ho
  by_contra hmarked
  obtain ⟨o', htext, hbounds⟩ := Override.exists_bound_of_not_unmarked hmarked
  have htexts : ∀ zs : List Override,
      (zs.map Override.twin).map Override.text = zs.map Override.text := by
    intro zs
    rw [List.map_map]
    exact List.map_congr_left fun o _ => Override.text_twin o
  -- both lists have the texts of `xs`, and their effects on one element differ
  have htwins : OverrideKey.of t (xs.map Override.twin) = OverrideKey.of t xs :=
    key_eq_iff.mpr ⟨rfl, .of_eq (htexts xs)⟩
  have hlast : OverrideKey.of t ((xs.erase o).map Override.twin ++ [o']) = OverrideKey.of t xs := by
    refine key_eq_iff.mpr ⟨rfl, ?_⟩
    rw [List.map_append, htexts, List.map_singleton, htext]
    exact (List.perm_append_singleton _ _).trans ((List.perm_cons_erase ho).map _).symm
  have hnothing : effectOn (xs.map Override.twin) o'.element = some (none, none) := by
    refine effectOn_of_bounds (fun z hz => ?_) o'.element
    obtain ⟨z', -, rfl⟩ := List.mem_map.mp hz
    exact ⟨rfl, rfl⟩
  have hsame : ∀ root, modified ((xs.erase o).map Override.twin ++ [o']) root =
      modified (xs.map Override.twin) root :=
    fun root => (h _ hlast root).trans (h _ htwins root).symm
  have heffect := modified_eq_iff.mp hsame o'.element
  rw [effectOn_append, hnothing] at heffect
  exact effect_ne hbounds heffect

/-- Where no text has a mark, no override with the same text does anything. -/
theorem sound_of_unmarked {t : String} (h : ∀ o ∈ xs, o.Unmarked)
    (hkey : OverrideKey.of t ys = OverrideKey.of t xs) (root : Node) :
    modified ys root = modified xs root := by
  refine modified_eq_iff.mpr (fun element => ?_) root
  have hys : ∀ o ∈ ys, o.Unmarked := by
    intro o ho
    have hperm := (key_eq_iff.mp hkey).2
    obtain ⟨o', ho', htext⟩ := List.mem_map.mp (hperm.subset (List.mem_map_of_mem ho))
    exact (h o' ho').congr htext.symm
  rw [effectOn_of_bounds fun o ho => (hys o ho).bounds,
    effectOn_of_bounds fun o ho => (h o ho).bounds]

/-- The lists whose key stands for one schema are those in which no override sets a bound and no
element is named like one with a bound. Among overrides that can be read back, they are those in
which all overrides of an element do the same, and their keys stand for one schema whatever is in
the file. -/
theorem key_sound_iff (t : String) (xs : List Override) :
    ((∀ ys, OverrideKey.of t ys = OverrideKey.of t xs →
        ∀ root, modified ys root = modified xs root) ↔ ∀ o ∈ xs, o.Unmarked) ∧
    ((∀ o ∈ xs, o.Clear) →
      ((∀ ys, (∀ o ∈ ys, o.Clear) → OverrideKey.of t ys = OverrideKey.of t xs →
          ∀ root, modified ys root = modified xs root) ↔ Consistent xs) ∧
      (Consistent xs → ∀ ys, (∀ o ∈ ys, o.Clear) → OverrideKey.of t ys = OverrideKey.of t xs →
        ∀ source, (apply source ys).map Prod.fst = (apply source xs).map Prod.fst)) := by
  refine ⟨⟨unmarked_of_sound t, fun h ys hkey => sound_of_unmarked h hkey⟩, fun clear => ?_⟩
  have sound : Consistent xs → ∀ ys, (∀ o ∈ ys, o.Clear) →
      OverrideKey.of t ys = OverrideKey.of t xs → ∀ root, modified ys root = modified xs root := by
    intro consistent ys hys hkey
    have hmem := mem_iff_of_key_eq clear hys hkey.symm
    exact modified_eq_iff.mpr fun element => (consistent.effectOn_congr hmem element).symm
  refine ⟨⟨?_, sound⟩, ?_⟩
  · intro h
    refine consistent_of_sound fun zs hperm => h zs ?_ (key_eq_of_perm hperm)
    exact fun o ho => clear o (hperm.subset ho)
  · exact fun consistent ys hys hkey => apply_congr (sound consistent ys hys hkey)

/-- Two elements with an override each. -/
def noteAndSignature : List Override :=
  [⟨"cac:Note", none, some "2"⟩, ⟨"cac:Signature", some "0", none⟩]

/-- In both orders they have one key, and make the same of every schema. -/
theorem key_sound_of_two : Consistent noteAndSignature ∧
    OverrideKey.of "INVOICE" noteAndSignature.reverse = OverrideKey.of "INVOICE" noteAndSignature ∧
    ∀ source, (apply source noteAndSignature.reverse).map Prod.fst =
      (apply source noteAndSignature).map Prod.fst := by
  have clear : ∀ o ∈ noteAndSignature, o.Clear := by
    intro o ho
    simp only [noteAndSignature, List.mem_cons, List.not_mem_nil, or_false] at ho
    rcases ho with rfl | rfl
    · exact ⟨by decide +kernel, by decide +kernel, by simp⟩
    · exact ⟨by decide +kernel, by decide +kernel, by rintro m ⟨rfl⟩; decide +kernel⟩
  have consistent : Consistent noteAndSignature := by
    unfold Consistent
    decide +kernel
  have hperm := List.reverse_perm noteAndSignature
  have hkey : OverrideKey.of "INVOICE" noteAndSignature.reverse =
      OverrideKey.of "INVOICE" noteAndSignature := key_eq_of_perm hperm
  exact ⟨consistent, hkey, ((key_sound_iff "INVOICE" noteAndSignature).2 clear).2 consistent _
    (fun o ho => clear o (hperm.subset ho)) hkey⟩

/-- A schema that refers to one element. -/
def signatureSchema : Bytes :=
  bytesOf "<element xmlns=\"http://www.w3.org/2001/XMLSchema\" ref=\"cac:Signature\"/>"

/-- Two overrides of one element. -/
def optionalThenRequired : List Override :=
  [⟨"cac:Signature", some "0", none⟩, ⟨"cac:Signature", some "1", none⟩]

/-- Two overrides of one element have one key in both orders, and make two schemas. -/
theorem key_unsound_of_repeated :
    OverrideKey.of "INVOICE" optionalThenRequired.reverse = OverrideKey.of "INVOICE" optionalThenRequired ∧
      (apply signatureSchema optionalThenRequired.reverse).toOption.map Prod.fst ≠
        (apply signatureSchema optionalThenRequired).toOption.map Prod.fst := by
  refine ⟨key_eq_of_perm (List.reverse_perm _), ?_⟩
  decide +kernel

end Conformity.Overridden
