import Conformity.Proofs.Injection.Checks
import Conformity.Proofs.Text.Comment
import Conformity.Proofs.Text.Utf8

/-!
# Texts that no document can hold

A control character, for one, cannot stand in a document. Assertions are injected into a source that
can be read exactly if their texts have no such character
(`Injection.exists_inject_eq_unwritable_iff`).
-/

namespace Conformity.Injection

open Markup

/-! ## Texts -/

theorem exists_writable_eq_ok_iff {s : String} :
    (∃ t, writable s = .ok t) ↔ isWritable s = true := by
  unfold writable
  cases isWritable s <;> simp

theorem isWritable_append {s t : String} :
    isWritable (s ++ t) = true ↔ isWritable s = true ∧ isWritable t = true := by
  simp [isWritable]

theorem isDocumentChar_of_ascii {c : Char} (h : 0x20 ≤ c.toNat) (h' : c.toNat < 0x80) :
    isDocumentChar c = true := by
  unfold isDocumentChar
  rw [Bool.or_eq_true]
  right
  simp only [Bool.and_eq_true, decide_eq_true_eq, bne_iff_ne]
  omega

theorem isDocumentChar_of_isIdentifierSafe {c : Char} (h : isIdentifierSafe c = true) :
    isDocumentChar c = true := by
  simp only [isIdentifierSafe, Bool.or_eq_true, beq_iff_eq] at h
  rcases h with (h | rfl) | rfl
  · obtain ⟨hlow, hhigh⟩ := Text.toNat_bounds_of_isAlphanum h
    exact isDocumentChar_of_ascii hlow hhigh
  · decide
  · decide

theorem isWritable_safeIdentifier (name : Option String) :
    isWritable (safeIdentifier name) = true := by
  unfold safeIdentifier
  split
  · next s =>
    split
    · decide
    · refine List.all_eq_true.mpr fun c hc => isDocumentChar_of_isIdentifierSafe ?_
      rw [String.toList_map] at hc
      obtain ⟨d, -, rfl⟩ := List.mem_map.mp hc
      split
      · next hsafe => exact hsafe
      · decide
  · decide

theorem isWritable_toString (n : Nat) : isWritable (toString n) = true := by
  refine List.all_eq_true.mpr fun c hc => isDocumentChar_of_isIdentifierSafe ?_
  have hdigits : c ∈ Nat.toDigits 10 n := by simpa using hc
  simp [isIdentifierSafe, Char.isAlphanum,
    Nat.isDigit_of_mem_toDigits (by decide : 0 < 10) (by decide) hdigits]

/-! ## The remark -/

theorem isWritable_provenance {name : Option String} {generated : String}
    (named : isWritable (name.getD "None") = true) (dated : isWritable generated = true)
    (count : Nat) : isWritable (provenance name generated count) = true := by
  refine List.all_eq_true.mpr fun c hc => ?_
  unfold provenance at hc
  rw [String.toList_ofList] at hc
  refine List.all_eq_true.mp ?_ c ((commentSafe_sublist _).subset hc)
  have hparts : isWritable " Custom Schematron rules, profile: " = true ∧
      isWritable ", generated: " = true ∧ isWritable ", " = true ∧
      isWritable " assertion(s) " = true := by decide
  show isWritable _ = true
  simp only [isWritable_append, hparts, named, dated, isWritable_toString, and_self]

/-! ## Checks -/

/-- A document can hold all texts of a check. -/
structure IsWritable (c : Check) : Prop where
  context : isWritable c.context = true
  test : isWritable c.test = true
  message : isWritable c.message = true
  id : ∀ i ∈ c.id, isWritable i = true

theorem exists_attributeOf_eq_ok_iff {base value : String} :
    (∃ a, attributeOf base value = .ok a) ↔ isWritable value = true := by
  refine (exists_bind_eq_ok_iff fun v => iff_true_intro ⟨_, rfl⟩).trans ?_
  rw [exists_writable_eq_ok_iff, and_true]

theorem exists_checkNode_eq_ok_iff {qualifier : Option String} {c : Check} :
    (∃ n, checkNode qualifier c = .ok n) ↔ isWritable c.test = true ∧
      (∀ i ∈ c.id, isWritable i = true) ∧ isWritable c.message = true := by
  have hids : (∃ as, c.id.toList.mapM (attributeOf "id") = .ok as) ↔
      ∀ i ∈ c.id, isWritable i = true := by
    simp only [exists_mapM_eq_ok_iff, exists_attributeOf_eq_ok_iff, Option.mem_toList,
      Option.mem_def]
  refine (exists_bind_eq_ok_iff fun test => exists_bind_eq_ok_iff fun ids =>
    exists_bind_eq_ok_iff fun message => iff_true_intro ⟨_, rfl⟩).trans ?_
  rw [exists_attributeOf_eq_ok_iff, hids, exists_writable_eq_ok_iff, and_true]

theorem exists_ruleNode_eq_ok_iff {qualifier : Option String} {group : String × List Check} :
    (∃ n, ruleNode qualifier group = .ok n) ↔ isWritable group.1 = true ∧
      ∀ c ∈ group.2, isWritable c.test = true ∧ (∀ i ∈ c.id, isWritable i = true) ∧
        isWritable c.message = true := by
  refine (exists_bind_eq_ok_iff fun context => exists_bind_eq_ok_iff fun checks =>
    iff_true_intro ⟨_, rfl⟩).trans ?_
  simp only [exists_attributeOf_eq_ok_iff, exists_mapM_eq_ok_iff, exists_checkNode_eq_ok_iff,
    and_true]

/-! ## Groups -/

theorem ne_nil_of_mem_put {t : Table (List Check)} (h : ∀ g ∈ t, g.2 ≠ []) (c : Check) :
    ∀ g ∈ put t c, g.2 ≠ [] := by
  induction t with
  | nil => simp [put, Table.alter]
  | cons g t ih =>
      have hrest := ih fun g' hg' => h g' (List.mem_cons_of_mem _ hg')
      unfold put Table.alter
      split
      · intro g' hg'
        rcases List.mem_cons.mp hg' with rfl | hmem
        · simp
        · exact h g' (List.mem_cons_of_mem _ hmem)
      · intro g' hg'
        rcases List.mem_cons.mp hg' with rfl | hmem
        · exact h g' List.mem_cons_self
        · exact hrest g' hmem

theorem ne_nil_of_mem_foldl {t : Table (List Check)} (h : ∀ g ∈ t, g.2 ≠ [])
    (checks : List Check) : ∀ g ∈ checks.foldl put t, g.2 ≠ [] := by
  induction checks generalizing t with
  | nil => exact h
  | cons c checks ih => exact ih (ne_nil_of_mem_put h c)

/-- A group is made for a check with its context. -/
theorem exists_mem_of_mem_grouped {checks : List Check} {g : String × List Check}
    (h : g ∈ grouped checks) : ∃ c ∈ g.2, c.context = g.1 := by
  obtain ⟨c, hc⟩ := List.exists_mem_of_ne_nil _ (ne_nil_of_mem_foldl (by simp) checks g h)
  exact ⟨c, hc, sorted_grouped checks g h c hc⟩

theorem forall_mem_grouped {checks : List Check} {P : Check → Prop} :
    (∀ g ∈ grouped checks, ∀ c ∈ g.2, P c) ↔ ∀ c ∈ checks, P c := by
  rw [← List.forall_mem_flatMap]
  exact forall_congr' fun c => imp_congr_left (grouped_perm checks).mem_iff

/-- The checks are put into a document exactly if it can hold their texts. -/
theorem exists_addition_eq_ok_iff {declared : List SpaceDeclaration} {checks : List Check}
    {name : Option String} {generated : String} (named : isWritable (name.getD "None") = true)
    (dated : isWritable generated = true) :
    (∃ new, addition declared checks name generated = .ok new) ↔ ∀ c ∈ checks, IsWritable c := by
  have hid : isWritable (patternId name) = true :=
    isWritable_append.mpr ⟨by decide, isWritable_safeIdentifier name⟩
  unfold addition
  refine (exists_bind_eq_ok_iff fun comment => exists_bind_eq_ok_iff fun id =>
    exists_bind_eq_ok_iff fun rules => iff_true_intro ⟨_, rfl⟩).trans ?_
  simp only [exists_writable_eq_ok_iff, isWritable_provenance named dated,
    exists_attributeOf_eq_ok_iff, hid, exists_mapM_eq_ok_iff, exists_ruleNode_eq_ok_iff, true_and,
    and_true]
  constructor
  · intro h
    refine forall_mem_grouped.mp fun g hg c hc => ?_
    obtain ⟨htest, hids, hmessage⟩ := (h g hg).2 c hc
    exact ⟨sorted_grouped checks g hg c hc ▸ (h g hg).1, htest, hmessage, hids⟩
  · intro h g hg
    have hgroup := forall_mem_grouped.mpr h g hg
    obtain ⟨c, hc, hcontext⟩ := exists_mem_of_mem_grouped hg
    exact ⟨hcontext ▸ (hgroup c hc).context, fun c hc =>
      ⟨(hgroup c hc).test, (hgroup c hc).id, (hgroup c hc).message⟩⟩

/-- Injecting is refused exactly if the source can be read and a check has a text that no document
can hold. -/
theorem exists_inject_eq_unwritable_iff {source : RuleSource} {as : List Assertion}
    {name : Option String} {generated : String} (named : isWritable (name.getD "None") = true)
    (dated : isWritable generated = true) :
    (∃ f, inject source as name generated = .error (.unwritable f)) ↔
      (Faithful.read? source.content).isSome = true ∧
        ∃ c ∈ as.filterMap Assertion.check?, ¬ IsWritable c := by
  unfold inject
  cases Faithful.read? source.content with
  | none => simp
  | some d =>
      have hchecks : (∃ c ∈ as.filterMap Assertion.check?, ¬ IsWritable c) ↔ ¬ ∃ new,
          addition d.root.declared (as.filterMap Assertion.check?) name generated = .ok new := by
        rw [exists_addition_eq_ok_iff named dated]
        simp only [Classical.not_forall, exists_prop]
      simp only [Option.isSome_some, true_and, hchecks]
      cases addition d.root.declared (as.filterMap Assertion.check?) name generated <;> simp

end Conformity.Injection
