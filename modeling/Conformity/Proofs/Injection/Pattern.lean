import Conformity.Proofs.Injection.Writable
import Conformity.Proofs.Markup.Comment
import Conformity.Proofs.Markup.Joined
import Conformity.Proofs.Markup.Scope
import Conformity.Proofs.Once

/-!
# The pattern that is injected

Each complete assertion asks for a check (`Assertion.AsksFor`). The checks are put into the rules of one
pattern, a rule for each context (`Injection.patternOf`), and the pattern is put behind what the root of
the source holds, with a remark that can stand in a comment (`Injection.inject_adds_pattern`).
-/

namespace Conformity

open Markup

variable {as : List Assertion} {c : Check} {checks : List Check} {name : Option String}
  {generated : String} {q : Option String}

/-! ## Checks -/

/-- A check is what an assertion asks for: it has the same texts, and the id if that is not blank. -/
structure Assertion.AsksFor (a : Assertion) (c : Check) : Prop where
  context : a.context = some c.context
  test : a.test = some c.test
  message : a.message = some c.message
  id : c.id = a.id.filter fun s => !Text.isBlankText s

theorem Assertion.check?_eq_some {a : Assertion} (h : a.isComplete) :
    ∃ c, a.check? = some c ∧ a.AsksFor c := by
  obtain ⟨context, test, message, id⟩ := a
  rw [isComplete, Bool.and_eq_true, Bool.and_eq_true] at h
  cases context with
  | none => cases h.1.1
  | some context =>
      cases test with
      | none => cases h.1.2
      | some test =>
          cases message with
          | none => cases h.2
          | some message =>
              refine ⟨⟨context, test, message, id.filter fun s => !Text.isBlankText s⟩, ?_, ?_⟩
              · simp [check?, isComplete, h]
              · exact ⟨rfl, rfl, rfl, rfl⟩

theorem Assertion.check?_eq_none {a : Assertion} (h : ¬ a.isComplete) : a.check? = none := by
  simp [check?, h]

theorem exists_asksFor (h : c ∈ as.filterMap Assertion.check?) : ∃ a ∈ as, a.AsksFor c := by
  obtain ⟨a, ha, hc⟩ := List.mem_filterMap.mp h
  by_cases hcomplete : a.isComplete
  · obtain ⟨c', hc', hasks⟩ := Assertion.check?_eq_some hcomplete
    rw [hc] at hc'
    cases hc'
    exact ⟨a, ha, hasks⟩
  · rw [Assertion.check?_eq_none hcomplete] at hc
    cases hc

/-- The complete assertions ask for the checks, one by one. -/
theorem forall₂_asksFor (as : List Assertion) :
    List.Forall₂ Assertion.AsksFor (as.filter Assertion.isComplete) (as.filterMap Assertion.check?) := by
  induction as with
  | nil => exact .nil
  | cons a as ih =>
      by_cases ha : a.isComplete
      · obtain ⟨c, hc, hasks⟩ := Assertion.check?_eq_some ha
        rw [List.filter_cons_of_pos ha, List.filterMap_cons_some hc]
        exact .cons hasks ih
      · rw [List.filter_cons_of_neg ha, List.filterMap_cons_none (Assertion.check?_eq_none ha)]
        exact ih

namespace Injection

/-! ## Groups -/

theorem put_map_of_mem {ks : List String} {f : String → List Check} (hks : ks.Nodup)
    (hc : c.context ∈ ks) : put (ks.map fun k => (k, f k)) c =
      ks.map fun k => (k, f k ++ if c.context = k then [c] else []) := by
  induction ks with
  | nil => cases hc
  | cons k ks ih =>
      obtain ⟨hk, hks⟩ := List.nodup_cons.mp hks
      rw [List.map_cons, List.map_cons, put, Table.alter]
      by_cases heq : k = c.context
      · -- no other group has this context
        have hothers : ∀ k' ∈ ks, c.context ≠ k' := fun k' hk' h => hk (heq ▸ h ▸ hk')
        rw [if_pos (beq_iff_eq.mpr heq), if_pos heq.symm]
        refine congrArg ((k, f k ++ [c]) :: ·) (List.map_congr_left fun k' hk' => ?_)
        rw [if_neg (hothers k' hk'), List.append_nil]
      · have hmem : c.context ∈ ks := (List.mem_cons.mp hc).resolve_left (Ne.symm heq)
        rw [if_neg (by simpa using heq), if_neg (Ne.symm heq), List.append_nil]
        exact congrArg ((k, f k) :: ·) (ih hks hmem)

theorem put_map_of_not_mem {ks : List String} {f : String → List Check} (hc : c.context ∉ ks) :
    put (ks.map fun k => (k, f k)) c = ks.map (fun k => (k, f k)) ++ [(c.context, [c])] := by
  induction ks with
  | nil => rfl
  | cons k ks ih =>
      rw [List.mem_cons, not_or] at hc
      rw [List.map_cons, put, Table.alter, if_neg (by simpa using Ne.symm hc.1)]
      exact congrArg ((k, f k) :: ·) (ih hc.2)

/-- There is a group for each context, where it first occurs, with the checks of this context in
order. -/
theorem grouped_eq (checks : List Check) : grouped checks =
    (checks.map (·.context)).eraseDups.map fun k => (k, checks.filter (·.context = k)) := by
  induction checks using List.reverseRecOn with
  | nil => rfl
  | append_singleton checks c ih =>
      have hput : grouped (checks ++ [c]) = put (grouped checks) c := List.foldl_concat ..
      have hfilter : ∀ k, (checks ++ [c]).filter (·.context = k) =
          checks.filter (·.context = k) ++ if c.context = k then [c] else [] := by
        intro k
        rw [List.filter_append, List.filter_singleton]
        simp
      rw [hput, ih, List.map_append, List.map_singleton]
      simp only [hfilter]
      by_cases hc : c.context ∈ checks.map (·.context)
      · rw [eraseDups_concat_of_mem hc]
        exact put_map_of_mem (nodup_eraseDups _) (List.mem_eraseDups.mpr hc)
      · have hnone : checks.filter (·.context = c.context) = [] := by
          rw [List.filter_eq_nil_iff]
          intro c' hc' h
          exact hc (List.mem_map.mpr ⟨c', hc', of_decide_eq_true h⟩)
        have hothers : ∀ k ∈ (checks.map (·.context)).eraseDups, c.context ≠ k := by
          rintro k hk rfl
          exact hc (List.mem_eraseDups.mp hk)
        rw [eraseDups_concat_of_not_mem hc, put_map_of_not_mem (by simpa using hc), List.map_append,
          List.map_singleton, if_pos rfl, hnone, List.nil_append]
        refine congrArg (· ++ [(c.context, [c])]) (List.map_congr_left fun k hk => ?_)
        rw [if_neg (hothers k hk), List.append_nil]

/-! ## Nodes -/

/-- An attribute in no namespace. -/
def plainAttribute (base value : String) : Attribute := { name := { base }, value }

/-- The element for a check. -/
def assertOf (q : Option String) (c : Check) : Node :=
  .element (nameOf q "assert") []
    (plainAttribute "test" c.test :: c.id.toList.map (plainAttribute "id")) [.text c.message]

/-- The rule for the checks of a context. -/
def ruleOf (q : Option String) (checks : List Check) (context : String) : Node :=
  .element (nameOf q "rule") [] [plainAttribute "context" context]
    ((checks.filter (·.context = context)).map (assertOf q))

/-- The pattern for checks: a rule for each context, in the order in which the contexts first occur. -/
def patternOf (q : Option String) (new : List SpaceDeclaration) (name : Option String)
    (checks : List Check) : Node :=
  .element (nameOf q "pattern") new [plainAttribute "id" (patternId name)]
    ((checks.map (·.context)).eraseDups.map (ruleOf q checks))

theorem writable_eq {s : String} (h : isWritable s) : writable s = .ok s := by
  rw [writable, if_pos h]

theorem attributeOf_eq {base value : String} (h : isWritable value) :
    attributeOf base value = .ok (plainAttribute base value) := by
  rw [attributeOf, writable_eq h]
  rfl

theorem checkNode_eq (h : IsWritable c) : checkNode q c = .ok (assertOf q c) := by
  have hid : c.id.toList.mapM (attributeOf "id") = .ok (c.id.toList.map (plainAttribute "id")) :=
    mapM_eq_ok_map fun i hi => attributeOf_eq (h.id i (Option.mem_toList.mp hi))
  rw [checkNode, attributeOf_eq h.test, hid, writable_eq h.message]
  rfl

theorem ruleNode_eq {context : String} (hcontext : isWritable context)
    (h : ∀ c ∈ checks, IsWritable c) : ruleNode q (context, checks.filter (·.context = context)) =
      .ok (ruleOf q checks context) := by
  have hchecks : (checks.filter (·.context = context)).mapM (checkNode q) =
      .ok ((checks.filter (·.context = context)).map (assertOf q)) :=
    mapM_eq_ok_map fun c hc => checkNode_eq (h c (List.mem_of_mem_filter hc))
  rw [ruleNode, attributeOf_eq hcontext]
  dsimp only
  rw [hchecks]
  rfl

/-- The pattern for checks, with a qualifier that stands for the namespace of rules where it is put. -/
def patternAt (declared : List SpaceDeclaration) (name : Option String) (checks : List Check) : Node :=
  patternOf (qualifierFor ruleSpace [declared]).1 (qualifierFor ruleSpace [declared]).2 name checks

/-- What is added is the remark and the pattern. -/
theorem addition_eq (declared : List SpaceDeclaration) (hname : isWritable (name.getD "None"))
    (hgenerated : isWritable generated) (h : ∀ c ∈ checks, IsWritable c) :
    addition declared checks name generated =
      .ok [.comment (provenance name generated checks.length), patternAt declared name checks] := by
  have hid : isWritable (patternId name) :=
    isWritable_append.mpr ⟨by decide, isWritable_safeIdentifier name⟩
  have hrules : (grouped checks).mapM (ruleNode (qualifierFor ruleSpace [declared]).1) =
      .ok ((checks.map (·.context)).eraseDups.map
        (ruleOf (qualifierFor ruleSpace [declared]).1 checks)) := by
    rw [grouped_eq, List.mapM_map]
    refine mapM_eq_ok_map fun context hcontext => ruleNode_eq ?_ h
    -- the context is that of a check
    obtain ⟨c, hc, rfl⟩ := List.mem_map.mp (List.mem_eraseDups.mp hcontext)
    exact (h c hc).context
  rw [addition, writable_eq (isWritable_provenance hname hgenerated checks.length), attributeOf_eq hid]
  dsimp only
  rw [hrules]
  rfl

/-! ## The remark -/

theorem isCommentText_provenance (name : Option String) (generated : String) (count : Nat) :
    IsCommentText (provenance name generated count).toList := by
  rw [provenance, String.toList_ofList]
  exact isCommentText_commentSafe _

/-- The remark ends with the number of checks, whatever hyphens stand before. -/
theorem exists_provenance_eq (name : Option String) (generated : String) (count : Nat) :
    ∃ front, provenance name generated count = front ++ ", " ++ toString count ++ " assertion(s) " := by
  have hdigits : '-' ∉ Nat.toDigits 10 count := fun h =>
    absurd (Nat.isDigit_of_mem_toDigits (by decide : 0 < 10) (by decide) h) (by decide)
  have hending : '-' ∉ (", " ++ toString count ++ " assertion(s) ").toList := by
    simp [hdigits]
  have hne : (", " ++ toString count ++ " assertion(s) ").toList ≠ [] := by simp
  have hcut : (" Custom Schematron rules, profile: " ++ name.getD "None" ++ ", generated: " ++
      generated ++ ", " ++ toString count ++ " assertion(s) ").toList =
        (" Custom Schematron rules, profile: " ++ name.getD "None" ++ ", generated: " ++
          generated).toList ++ (", " ++ toString count ++ " assertion(s) ").toList := by
    simp
  refine ⟨String.ofList (singleHyphens (" Custom Schematron rules, profile: " ++ name.getD "None" ++
    ", generated: " ++ generated).toList), ?_⟩
  rw [← String.toList_inj, provenance, String.toList_ofList, hcut, commentSafe_append hending hne]
  simp

/-! ## The source with the pattern -/

/-- A document with the remark and the pattern for assertions behind what its root holds. -/
def extended (d : Document) (as : List Assertion) (name : Option String) (generated : String) :
    Document :=
  let checks := as.filterMap Assertion.check?
  let remark := provenance name generated checks.length
  { d with root := d.root.append [.comment remark, patternAt d.root.declared name checks] }

/-- A document is another one with a remark and a pattern put behind what its root holds; the pattern is
for the checks that the complete assertions ask for, and the remark can be written and tells how many
they are. -/
def IsExtended (as : List Assertion) (name : Option String) (d out : Document) : Prop :=
  ∃ tag declared attributes children remark q new checks,
    d.root = .element tag declared attributes children ∧
    out.root = .element tag declared attributes
      (children ++ [.comment remark, patternOf q new name checks]) ∧
    out = { d with root := out.root } ∧
    IsCommentText remark.toList ∧
    (∃ front, remark =
      front ++ ", " ++ toString (as.countP Assertion.isComplete) ++ " assertion(s) ") ∧
    List.Forall₂ Assertion.AsksFor (as.filter Assertion.isComplete) checks ∧
    (patternChecks (patternOf q new name checks)).Perm checks

theorem isWritable_of_asksFor {a : Assertion} (h : a.AsksFor c)
    (htexts : ∀ o ∈ [a.context, a.test, a.message, a.id], ∀ s ∈ o, isWritable s) :
    IsWritable c := by
  refine ⟨htexts _ (by simp) _ h.context, htexts _ (by simp) _ h.test, htexts _ (by simp) _ h.message,
    ?_⟩
  intro i hi
  rw [h.id, Option.mem_def, Option.filter_eq_some_iff] at hi
  exact htexts a.id (by simp) i hi.1

theorem length_checks (as : List Assertion) :
    (as.filterMap Assertion.check?).length = as.countP Assertion.isComplete := by
  rw [List.countP_eq_length_filter, (forall₂_asksFor as).length_eq]

theorem inject_eq {source : RuleSource} {d : Document}
    (hread : Faithful.read? source.content = some d)
    (h : ∀ c ∈ as.filterMap Assertion.check?, IsWritable c)
    (hname : isWritable (name.getD "None")) (hgenerated : isWritable generated) :
    inject source as name generated =
      .ok { source with content := (extended d as name generated).bytes } := by
  rw [inject, hread]
  dsimp only
  rw [addition_eq _ hname hgenerated h]
  rfl

/-- The pattern holds each check once. -/
theorem patternChecks_perm (hname : isWritable (name.getD "None")) (hgenerated : isWritable generated)
    (h : ∀ c ∈ checks, IsWritable c) (declared : List SpaceDeclaration) :
    (patternChecks (patternAt declared name checks)).Perm checks := by
  obtain ⟨remark, pattern, hnew, -, hperm⟩ :=
    addition_eq_ok (addition_eq declared hname hgenerated h)
  cases hnew
  exact hperm

theorem isExtended_extended {source : RuleSource} {d : Document}
    (hread : Faithful.read? source.content = some d) (hname : isWritable (name.getD "None"))
    (hgenerated : isWritable generated) (h : ∀ c ∈ as.filterMap Assertion.check?, IsWritable c) :
    IsExtended as name d (extended d as name generated) := by
  obtain ⟨⟨tag, declared, attributes, children, hroot⟩, -⟩ := Faithful.resolved_of_read? hread
  refine ⟨tag, declared, attributes, children,
    provenance name generated (as.filterMap Assertion.check?).length,
    (qualifierFor ruleSpace [d.root.declared]).1, (qualifierFor ruleSpace [d.root.declared]).2,
    as.filterMap Assertion.check?, hroot, ?_, rfl, isCommentText_provenance _ _ _, ?_,
    forall₂_asksFor as, patternChecks_perm hname hgenerated h d.root.declared⟩
  · simp only [extended, hroot]
    rfl
  · rw [length_checks]
    exact exists_provenance_eq name generated _

/-! ## The checks that are read again -/

theorem assertCheck?_joined (context : String) (n : Node) :
    assertCheck? context n.joined = assertCheck? context n := by
  cases n with
  | element name declared attributes children =>
      simp only [Node.joined, assertCheck?, Node.textOfAll_joinedAll]
  | _ => rfl

theorem ruleChecks_joined (n : Node) : ruleChecks n.joined = ruleChecks n := by
  cases n with
  | element name declared attributes children =>
      have hchecks : ∀ context, (Node.joinedAll children).filterMap (assertCheck? context) =
          children.filterMap (assertCheck? context) := fun context =>
        Node.filterMap_joinedAll (fun _ => rfl) (assertCheck?_joined context) children
      simp only [Node.joined, ruleChecks, hchecks]
  | _ => rfl

theorem patternChecks_joined (n : Node) : patternChecks n.joined = patternChecks n := by
  cases n with
  | element name declared attributes children =>
      simp only [Node.joined, patternChecks,
        Node.flatMap_joinedAll (fun _ => rfl) ruleChecks_joined children]
  | _ => rfl

/-- The checks of the patterns of a source. -/
def checksOf : Node → List Check
  | .element _ _ _ children => children.flatMap patternChecks
  | _ => []

theorem checksOf_joined (n : Node) : checksOf n.joined = checksOf n := by
  cases n with
  | element name declared attributes children =>
      exact Node.flatMap_joinedAll (fun _ => rfl) patternChecks_joined children
  | _ => rfl

/-- Assertions are injected into a source as one pattern behind what its root holds, and nothing else is
changed. Wherever the remark is written it is read as one comment, whatever hyphens the name has. What
comes out is read as it was written if documents are whose comments can be written, and has the checks of
the assertions besides those of the source. -/
theorem inject_adds_pattern {source : RuleSource} {d : Document}
    (hread : Faithful.read? source.content = some d)
    (htexts : ∀ a ∈ as, ∀ o ∈ [a.context, a.test, a.message, a.id], ∀ s ∈ o, isWritable s)
    (hname : isWritable (name.getD "None")) (hgenerated : isWritable generated)
    (hback : IsCommentText (provenance name generated (as.countP Assertion.isComplete)).toList →
      (extended d as name generated).ReadsBack) :
    inject source as name generated =
      .ok { source with content := (extended d as name generated).bytes } ∧
    IsExtended as name d (extended d as name generated) ∧
    (∀ edition fuel top below rest,
      let remark := provenance name generated (as.countP Assertion.isComplete)
      content edition (fuel + 1) top below ((Node.comment remark).print.toList ++ rest) =
        content edition fuel (top.add (.comment remark)) below rest) ∧
    ∃ d', Faithful.read? (extended d as name generated).bytes = some d' ∧
      d'.SameAs (extended d as name generated) ∧
      (checksOf d'.root).Perm (checksOf d.root ++ as.filterMap Assertion.check?) := by
  -- the checks have the texts of assertions, so each of them can be written
  have hchecks : ∀ c ∈ as.filterMap Assertion.check?, IsWritable c := by
    intro c hc
    obtain ⟨a, ha, hasks⟩ := exists_asksFor hc
    exact isWritable_of_asksFor hasks (htexts a ha)
  have hroot : checksOf (extended d as name generated).root = checksOf d.root ++
      patternChecks (patternAt d.root.declared name (as.filterMap Assertion.check?)) := by
    obtain ⟨⟨tag, declared, attributes, children, hroot⟩, -⟩ := Faithful.resolved_of_read? hread
    simp only [extended, hroot]
    simp [checksOf, Node.append, patternChecks]
  have hremark := isCommentText_provenance name generated (as.countP Assertion.isComplete)
  obtain ⟨d', hread', hsame⟩ := hback hremark
  refine ⟨inject_eq hread hchecks hname hgenerated, isExtended_extended hread hname hgenerated hchecks,
    ?_, d', hread', hsame, ?_⟩
  · intro edition fuel top below rest
    exact content_comment hremark rest
  · -- joining texts changes nothing that a check is made of
    rw [← checksOf_joined, hsame.root, checksOf_joined, hroot]
    exact (patternChecks_perm hname hgenerated hchecks d.root.declared).append_left _

/-- A source with a title. -/
def titledSource : RuleSource where
  content := bytesOf ("<s:schema xmlns:s=\"http://purl.oclc.org/dsdl/schematron\"><!-- own -->" ++
    "<s:title>Rules</s:title></s:schema>")

/-- Two assertions of one context with one of another between them, and one without a test. -/
def fourAssertions : List Assertion :=
  [⟨"/a", "b", "no b", "R1"⟩, ⟨"/c", "d", "no d", none⟩, ⟨"/a", "e < 1", "e & \"so\"", " "⟩,
    ⟨"/a", none, "no test", none⟩]

theorem inject_adds_pattern_of_four : ∃ d d' injected,
    Faithful.read? titledSource.content = some d ∧
    inject titledSource fourAssertions (some "a---b--") "2024-01-01T00:00:00" = .ok injected ∧
    Faithful.read? injected.content = some d' ∧
    d'.SameAs (extended d fourAssertions (some "a---b--") "2024-01-01T00:00:00") ∧
    (checksOf d'.root).Perm
      [⟨"/a", "b", "no b", some "R1"⟩, ⟨"/c", "d", "no d", none⟩,
        ⟨"/a", "e < 1", "e & \"so\"", none⟩] := by
  have hback : (Faithful.read? titledSource.content).any fun d =>
      checksOf d.root = [] ∧
        (extended d fourAssertions (some "a---b--") "2024-01-01T00:00:00").ReadsBack := by
    decide +kernel
  obtain ⟨d, hread, hback⟩ := (Option.any_eq_true _ _).mp hback
  obtain ⟨hnone, hback⟩ := of_decide_eq_true hback
  obtain ⟨hinject, -, -, d', hread', hsame, hperm⟩ := inject_adds_pattern hread
    (by decide +kernel) (by decide +kernel) (by decide +kernel) fun _ => hback
  have hchecks : fourAssertions.filterMap Assertion.check? =
      [⟨"/a", "b", "no b", some "R1"⟩, ⟨"/c", "d", "no d", none⟩,
        ⟨"/a", "e < 1", "e & \"so\"", none⟩] := by
    decide +kernel
  rw [hnone, hchecks] at hperm
  exact ⟨d, d', _, hread, hinject, hread', hsame, hperm⟩

end Injection

end Conformity
