import Mathlib.Data.List.Nodup
import Conformity.Profile.Inheritance
import Conformity.Proofs.Table

/-!
# Chains of profiles

From a profile a way leads up to the profile that it extends, from there to the next one, and so on
(`Ascent`). The way ends at a profile that extends none, at a name without a profile, or at a name
met before, and so it decides what becomes of the profile (`Settles`): it inherits from its whole
chain (`IsHeir`), or it has one certain fault. There is only one way up, and it ends in one way only
(`Settles.unique`).
-/

namespace Conformity

variable {declared : Table Profile} {name start : String}

/-! ## Ways up -/

/-- The profile with a name extends another one. -/
def Extends (declared : Table Profile) (name parent : String) : Prop :=
  ∃ own, declared.get? name = some own ∧ own.extends? = some parent

/-- The names met on the way up from a profile, the highest one first. -/
inductive Ascent (declared : Table Profile) (name : String) : List String → Prop
  | start : Ascent declared name [name]
  | climb {n parent : String} {ns : List String} :
      Ascent declared name (n :: ns) → Extends declared n parent →
        Ascent declared name (parent :: n :: ns)

theorem Extends.eq {n p q : String} (hp : Extends declared n p) (hq : Extends declared n q) :
    p = q := by
  obtain ⟨own, hown, hp⟩ := hp
  obtain ⟨own', hown', hq⟩ := hq
  rw [hown] at hown'
  cases hown'
  rw [hp] at hq
  exact Option.some.inj hq

theorem Extends.mem_names {n p : String} (h : Extends declared n p) : n ∈ declared.names := by
  obtain ⟨own, hown, -⟩ := h
  exact Table.has_iff_mem_names.mp (by simp [Table.has, hown])

namespace Ascent

variable {n : String} {ms ns : List String}

theorem eq_start (h : Ascent declared name [n]) : n = name := by
  cases h
  rfl

theorem getLast? (h : Ascent declared name ns) : ns.getLast? = some name := by
  induction h with
  | start => rfl
  | climb _ _ ih => rwa [List.getLast?_cons_cons]

/-- Below the highest name, every profile extends the one above it. -/
theorem extends_of_append {a : List String} {p : String} (h : Ascent declared name (a ++ p :: n :: ns)) :
    Extends declared n p := by
  induction a with
  | nil =>
      cases h with
      | climb _ hext => exact hext
  | cons x a ih =>
      cases a with
      | nil =>
          cases h with
          | climb h _ => exact ih h
      | cons y a =>
          cases h with
          | climb h _ => exact ih h

/-- All names of a way but the highest are those of profiles that extend one. -/
theorem extends_of_mem (h : Ascent declared name (n :: ns)) {m : String} (hm : m ∈ ns) :
    ∃ p, Extends declared m p := by
  obtain ⟨a, b, rfl⟩ := List.append_of_mem hm
  rcases List.eq_nil_or_concat a with rfl | ⟨a, p, rfl⟩
  · exact ⟨n, extends_of_append (a := []) h⟩
  · have hbelow : Ascent declared name ((n :: a) ++ p :: m :: b) := by simpa using h
    exact ⟨p, hbelow.extends_of_append⟩

/-- A profile below the first one puts one more name at the lower end. -/
theorem from_below {parent : String} (h : Ascent declared parent ns)
    (hext : Extends declared name parent) : Ascent declared name (ns ++ [name]) := by
  induction h with
  | start => exact .climb .start hext
  | climb _ hn ih => exact .climb ih hn

/-- There is only one way up. -/
theorem suffix_or_suffix (hm : Ascent declared name ms) (hn : Ascent declared name ns) :
    ms <:+ ns ∨ ns <:+ ms := by
  induction hm with
  | start =>
      obtain ⟨l, rfl⟩ := List.getLast?_eq_some_iff.mp hn.getLast?
      exact .inl (List.suffix_append l [name])
  | @climb n p l _ hext ih =>
      rcases ih with ⟨a, rfl⟩ | hsuffix
      · rcases List.eq_nil_or_concat a with rfl | ⟨a, q, rfl⟩
        · exact .inr (List.suffix_cons p (n :: l))
        · -- what stands above `n` in the other way is the profile that `n` extends
          have hother : Ascent declared name (a ++ q :: n :: l) := by simpa using hn
          rw [hext.eq hother.extends_of_append]
          exact .inl ⟨a, by simp⟩
      · exact .inr (hsuffix.trans (List.suffix_cons p (n :: l)))

end Ascent

/-- The way ends at its highest name: that name was met before, or nothing lies above it. -/
structure Ended (declared : Table Profile) (name n : String) (ns : List String) : Prop where
  ascent : Ascent declared name (n :: ns)
  nodup : ns.Nodup
  stops : n ∈ ns ∨ ∀ parent, ¬ Extends declared n parent

/-- A way that has ended cannot go on in another one. -/
theorem Ended.eq_of_suffix {m n : String} {ms ns : List String} (hm : Ended declared name m ms)
    (hn : Ended declared name n ns) (h : m :: ms <:+ n :: ns) : m :: ms = n :: ns := by
  rcases List.suffix_cons_iff.mp h with heq | hsuffix
  · exact heq
  · exfalso
    have hnodup : (m :: ms).Nodup := hn.nodup.sublist hsuffix.sublist
    obtain ⟨p, hext⟩ := hn.ascent.extends_of_mem (hsuffix.subset List.mem_cons_self)
    rcases hm.stops with hmem | hnone
    · exact (List.nodup_cons.mp hnodup).1 hmem
    · exact hnone p hext

theorem Ended.unique {m n : String} {ms ns : List String} (hm : Ended declared name m ms)
    (hn : Ended declared name n ns) : m = n ∧ ms = ns := by
  have heq : m :: ms = n :: ns := by
    rcases hm.ascent.suffix_or_suffix hn.ascent with h | h
    · exact hm.eq_of_suffix hn h
    · exact (hn.eq_of_suffix hm h).symm
  exact List.cons_eq_cons.mp heq

/-! ## What a chain hands down -/

/-- The last profile of a chain with what the others hand down, one to the next. -/
def Profile.heir (root : Profile) (rest : List Profile) : Profile :=
  rest.foldl (fun inherited own => own.inherit inherited) root

/-- A profile has its own name, description and parent, and the entries of all profiles of its
chain, the root's first. -/
structure IsHeir (root : Profile) (rest : List Profile) (p : Profile) : Prop where
  own : ∃ own, (root :: rest).getLast? = some own ∧ p.name = own.name ∧
    p.description = own.description ∧ p.parent = own.parent
  rules : p.rules = (root :: rest).flatMap Profile.rules
  overrides : p.overrides = rest.foldl (fun os q => mergeOverrides os q.overrides) root.overrides
  assertions :
    p.assertions = rest.foldl (fun as q => mergeAssertions as q.assertions) root.assertions
  assertionsFor : ∀ type, p.assertionsFor type =
    (root :: rest).flatMap fun q => q.assertionsFor type

theorem IsHeir.unique {root : Profile} {rest : List Profile} {p q : Profile}
    (hp : IsHeir root rest p) (hq : IsHeir root rest q) : p = q := by
  obtain ⟨own, hown, hname, hdescription, hparent⟩ := hp.own
  obtain ⟨own', hown', hname', hdescription', hparent'⟩ := hq.own
  rw [hown] at hown'
  cases hown'
  cases p
  cases q
  simp_all only [Profile.mk.injEq]
  exact ⟨trivial, trivial, trivial, hp.rules.trans hq.rules.symm,
    hp.overrides.trans hq.overrides.symm, hp.assertions.trans hq.assertions.symm⟩

/-- Every type has one list of assertions. -/
def Profile.IsProper (p : Profile) : Prop := p.assertions.names.Nodup

theorem Profile.IsProper.inherit {own parent : Profile} : (own.inherit parent).IsProper :=
  Table.nodup_names_foldl_alter _ _ _ List.nodup_nil

theorem assertionsFor_inherit {own parent : Profile} (hown : own.IsProper) (hparent : parent.IsProper)
    (type : String) : (own.inherit parent).assertionsFor type =
      parent.assertionsFor type ++ own.assertionsFor type := by
  show ((List.foldl _ [] (parent.assertions ++ own.assertions) : Assertions).get? type).getD [] = _
  rw [List.foldl_append, Table.getD_get?_foldl_append hown, Table.getD_get?_foldl_append hparent]
  rfl

theorem heir_append (root : Profile) (rest : List Profile) (own : Profile) :
    Profile.heir root (rest ++ [own]) = own.inherit (Profile.heir root rest) := by
  rw [Profile.heir, Profile.heir, List.foldl_append]
  rfl

theorem isProper_heir {root : Profile} {rest : List Profile} (hroot : root.IsProper) :
    (Profile.heir root rest).IsProper := by
  rcases List.eq_nil_or_concat rest with rfl | ⟨rest, own, rfl⟩
  · exact hroot
  · rw [List.concat_eq_append, heir_append]
    exact .inherit

/-- Handing down from one profile to the next gives the last one the entries of all. -/
theorem isHeir_heir {root : Profile} {rest : List Profile}
    (hproper : ∀ q ∈ root :: rest, q.IsProper) : IsHeir root rest (Profile.heir root rest) := by
  have hroot : root.IsProper := hproper root List.mem_cons_self
  induction rest using List.reverseRecOn with
  | nil => exact ⟨⟨root, rfl, rfl, rfl, rfl⟩, by simp [Profile.heir], rfl, rfl, by simp [Profile.heir]⟩
  | append_singleton rest own ih =>
      have hown : own.IsProper := hproper own (by simp)
      have hrest := ih fun q hq => hproper q (by
        rcases List.mem_cons.mp hq with rfl | hq <;> simp [*])
      rw [heir_append]
      exact {
        own := ⟨own, by rw [← List.cons_append, List.getLast?_concat], rfl, rfl, rfl⟩
        rules := by
          show (Profile.heir root rest).rules ++ own.rules = _
          rw [hrest.rules, ← List.cons_append, List.flatMap_append, List.flatMap_singleton]
        overrides := by
          show mergeOverrides (Profile.heir root rest).overrides own.overrides = _
          rw [hrest.overrides, List.foldl_append]
          rfl
        assertions := by
          show mergeAssertions (Profile.heir root rest).assertions own.assertions = _
          rw [hrest.assertions, List.foldl_append]
          rfl
        assertionsFor := fun type => by
          rw [assertionsFor_inherit hown (isProper_heir hroot), hrest.assertionsFor,
            ← List.cons_append, List.flatMap_append, List.flatMap_singleton] }

/-! ## What becomes of a profile -/

/-- What the way up from a profile makes of it. -/
inductive Settles (declared : Table Profile) (name : String) :
    Except InheritanceFault Profile → Prop
  /-- The way stays among the profiles, repeats no name and ends at a profile that extends none. -/
  | resolved {n : String} {ns : List String} {root : Profile} {rest : List Profile} {p : Profile} :
      Ascent declared name (n :: ns) → (n :: ns).Nodup →
        (n :: ns).map declared.get? = (root :: rest).map some → root.extends? = none →
          IsHeir root rest p → Settles declared name (.ok p)
  /-- The way comes back to a name. -/
  | cycle {n : String} {ns : List String} :
      Ascent declared name (n :: ns) → ns.Nodup → n ∈ ns → Settles declared name (.error (.cycle n))
  /-- There is no profile to begin with. -/
  | unknown : declared.get? name = none → Settles declared name (.error (.unknown name))
  /-- The way leads from the last profile to a name without one. -/
  | unknownParent {n parent : String} {ns : List String} :
      Ascent declared name (parent :: n :: ns) → (n :: ns).Nodup → declared.get? parent = none →
        Settles declared name (.error (.unknownParent n parent))

namespace Settles

variable {p : Profile} {o o' : Except InheritanceFault Profile}

theorem not_extends {n : String} {own : Profile} (hown : declared.get? n = some own)
    (h : own.extends? = none) (parent : String) : ¬ Extends declared n parent := by
  rintro ⟨own', hown', hext⟩
  rw [hown] at hown'
  cases hown'
  rw [h] at hext
  cases hext

theorem not_extends_of_none {n : String} (h : declared.get? n = none) (parent : String) :
    ¬ Extends declared n parent := by
  rintro ⟨own, hown, -⟩
  rw [h] at hown
  cases hown

/-- How the way ends tells what becomes of a profile. -/
inductive ByEnd (declared : Table Profile) (n : String) (ns : List String) :
    Except InheritanceFault Profile → Prop
  | resolved {root : Profile} {rest : List Profile} {p : Profile} : n ∉ ns →
      (n :: ns).map declared.get? = (root :: rest).map some → IsHeir root rest p →
        ByEnd declared n ns (.ok p)
  | cycle : n ∈ ns → ByEnd declared n ns (.error (.cycle n))
  | unknown : ns = [] → declared.get? n = none → ByEnd declared n ns (.error (.unknown n))
  | unknownParent {m : String} {ms : List String} : ns = m :: ms → n ∉ ns →
      declared.get? n = none → ByEnd declared n ns (.error (.unknownParent m n))

theorem ended (h : Settles declared name o) :
    ∃ n ns, Ended declared name n ns ∧ ByEnd declared n ns o := by
  cases h with
  | @resolved n ns root rest p hascent hnodup hget hroot hheir =>
      obtain ⟨hn, hns⟩ := List.nodup_cons.mp hnodup
      have hown : declared.get? n = some root := (List.cons_eq_cons.mp hget).1
      exact ⟨n, ns, ⟨hascent, hns, .inr (not_extends hown hroot)⟩, .resolved hn hget hheir⟩
  | @cycle n ns hascent hnodup hmem => exact ⟨n, ns, ⟨hascent, hnodup, .inl hmem⟩, .cycle hmem⟩
  | unknown hnone =>
      exact ⟨name, [], ⟨.start, List.nodup_nil, .inr (not_extends_of_none hnone)⟩, .unknown rfl hnone⟩
  | @unknownParent n parent ns hascent hnodup hnone =>
      have hfresh : parent ∉ n :: ns := by
        intro hmem
        obtain ⟨p, hext⟩ := hascent.extends_of_mem hmem
        exact not_extends_of_none hnone p hext
      exact ⟨parent, n :: ns, ⟨hascent, hnodup, .inr (not_extends_of_none hnone)⟩,
        .unknownParent rfl hfresh hnone⟩

theorem ByEnd.unique {n : String} {ns : List String} (h : ByEnd declared n ns o)
    (h' : ByEnd declared n ns o') : o = o' := by
  cases h with
  | @resolved root rest p hn hget hheir =>
      have hown : declared.get? n = some root := (List.cons_eq_cons.mp hget).1
      cases h' with
      | @resolved root' rest' p' _ hget' hheir' =>
          have hchain : root :: rest = root' :: rest' :=
            List.map_injective_iff.mpr (fun _ _ => Option.some.inj) (hget.symm.trans hget')
          cases hchain
          rw [hheir.unique hheir']
      | cycle hmem => exact absurd hmem hn
      | unknown _ hnone => simp [hown] at hnone
      | unknownParent _ _ hnone => simp [hown] at hnone
  | cycle hmem =>
      cases h' with
      | resolved hn => exact absurd hmem hn
      | cycle => rfl
      | unknown hns => simp [hns] at hmem
      | unknownParent _ hn => exact absurd hmem hn
  | unknown hns hnone =>
      cases h' with
      | resolved _ hget => simp [hnone] at hget
      | cycle hmem => simp [hns] at hmem
      | unknown => rfl
      | unknownParent hns' => simp [hns] at hns'
  | unknownParent hns hn hnone =>
      cases h' with
      | resolved _ hget => simp [hnone] at hget
      | cycle hmem => exact absurd hmem hn
      | unknown hns' => simp [hns] at hns'
      | unknownParent hns' =>
          rw [hns] at hns'
          cases hns'
          rfl

/-- A profile becomes one thing only. -/
theorem unique (h : Settles declared name o) (h' : Settles declared name o') : o = o' := by
  obtain ⟨n, ns, hended, hend⟩ := h.ended
  obtain ⟨n', ns', hended', hend'⟩ := h'.ended
  obtain ⟨rfl, rfl⟩ := hended.unique hended'
  exact hend.unique hend'

end Settles

end Conformity
