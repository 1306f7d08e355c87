import Conformity.Injection
import Conformity.Proofs.Work

/-!
# The checks in an injected pattern

The pattern that is put into a rule-set can be read back: it holds each check once, under the id of
the profile, and nothing else (`Injection.inject_eq_ok`).
-/

namespace Conformity.Injection

open Markup

/-! ## Reading checks -/

/-- The check that an element of a rule with a context asks for. -/
def assertCheck? (context : String) : Node → Option Check
  | .element name _ attributes children =>
    if name.isIn ruleSpace "assert" then
      (Node.attribute? "test" attributes).map fun test =>
        ⟨context, test, Node.textOfAll children, Node.attribute? "id" attributes⟩
    else none
  | _ => none

/-- The checks of a rule. -/
def ruleChecks : Node → List Check
  | .element name _ attributes children =>
    if name.isIn ruleSpace "rule" then
      match Node.attribute? "context" attributes with
      | some context => children.filterMap (assertCheck? context)
      | none => []
    else []
  | _ => []

/-- The checks of a pattern. -/
def patternChecks : Node → List Check
  | .element name _ _ children =>
    if name.isIn ruleSpace "pattern" then children.flatMap ruleChecks else []
  | _ => []

/-- The id of a pattern. -/
def idOf? : Node → Option String
  | .element _ _ attributes _ => Node.attribute? "id" attributes
  | _ => none

/-! ## Writing in steps -/

/-- What is read back item by item is read back from the list. -/
theorem filterMap_mapM {ε α β : Type} {f : α → Except ε β} {g : β → Option α} {xs : List α}
    (h : ∀ x ∈ xs, ∀ {y}, f x = .ok y → g y = some x) {ys : List β}
    (hys : xs.mapM f = .ok ys) : ys.filterMap g = xs := by
  induction xs generalizing ys with
  | nil =>
      cases hys
      rfl
  | cons x xs ih =>
      rw [List.mapM_cons, bind_eq_ok] at hys
      obtain ⟨y, hy, hys⟩ := hys
      obtain ⟨zs, hzs, heq⟩ := bind_eq_ok.mp hys
      cases heq
      rw [List.filterMap_cons_some (h x List.mem_cons_self hy),
        ih (fun x' hx' => h x' (List.mem_cons_of_mem _ hx')) hzs]

theorem flatMap_mapM {ε α β γ : Type} {f : α → Except ε β} {g : β → List γ} {k : α → List γ}
    {xs : List α} (h : ∀ x ∈ xs, ∀ {y}, f x = .ok y → g y = k x) {ys : List β}
    (hys : xs.mapM f = .ok ys) : ys.flatMap g = xs.flatMap k := by
  induction xs generalizing ys with
  | nil =>
      cases hys
      rfl
  | cons x xs ih =>
      rw [List.mapM_cons, bind_eq_ok] at hys
      obtain ⟨y, hy, hys⟩ := hys
      obtain ⟨zs, hzs, heq⟩ := bind_eq_ok.mp hys
      cases heq
      rw [List.flatMap_cons, List.flatMap_cons, h x List.mem_cons_self hy,
        ih (fun x' hx' => h x' (List.mem_cons_of_mem _ hx')) hzs]

theorem writable_eq_ok {s t : String} (h : writable s = .ok t) : t = s := by
  unfold writable at h
  split at h
  · cases h
    rfl
  · cases h

theorem attributeOf_eq_ok {base value : String} {a : Attribute} (h : attributeOf base value = .ok a) :
    a = { name := { base }, value } := by
  obtain ⟨v, hv, ha⟩ := bind_eq_ok.mp h
  obtain rfl := writable_eq_ok hv
  cases ha
  rfl

/-! ## Reading back -/

theorem assertCheck?_checkNode {qualifier : Option String} {c : Check} {n : Node}
    (h : checkNode qualifier c = .ok n) : assertCheck? c.context n = some c := by
  obtain ⟨test, htest, h⟩ := bind_eq_ok.mp h
  obtain ⟨id, hid, h⟩ := bind_eq_ok.mp h
  obtain ⟨message, hmessage, h⟩ := bind_eq_ok.mp h
  cases h
  obtain rfl := attributeOf_eq_ok htest
  obtain rfl := writable_eq_ok hmessage
  obtain ⟨context, test, message, id?⟩ := c
  cases id? with
  | none =>
      cases hid
      simp [assertCheck?, nameOf, Name.isIn, Node.attribute?, Name.isPlain, Node.textOfAll,
        Node.textContent]
  | some i =>
      rw [Option.toList_some, List.mapM_cons, bind_eq_ok] at hid
      obtain ⟨a, ha, hid⟩ := hid
      cases hid
      obtain rfl := attributeOf_eq_ok ha
      simp [assertCheck?, nameOf, Name.isIn, Node.attribute?, Name.isPlain, Node.textOfAll,
        Node.textContent]

theorem ruleChecks_ruleNode {qualifier : Option String} {group : String × List Check} {n : Node}
    (hgroup : ∀ c ∈ group.2, c.context = group.1) (h : ruleNode qualifier group = .ok n) :
    ruleChecks n = group.2 := by
  obtain ⟨context, hcontext, h⟩ := bind_eq_ok.mp h
  obtain ⟨checks, hchecks, h⟩ := bind_eq_ok.mp h
  cases h
  obtain rfl := attributeOf_eq_ok hcontext
  have hread : checks.filterMap (assertCheck? group.1) = group.2 := by
    refine filterMap_mapM ?_ hchecks
    intro c hc n hn
    rw [← hgroup c hc]
    exact assertCheck?_checkNode hn
  simpa [ruleChecks, nameOf, Name.isIn, Node.attribute?, Name.isPlain] using hread

/-! ## Groups -/

/-- Each group holds checks of its context. -/
def Sorted (t : Table (List Check)) : Prop := ∀ g ∈ t, ∀ c ∈ g.2, c.context = g.1

/-- A table with a check put behind those of its context. -/
def put (t : Table (List Check)) (c : Check) : Table (List Check) :=
  t.alter c.context fun cs => cs.getD [] ++ [c]

theorem sorted_put {t : Table (List Check)} (h : Sorted t) (c : Check) : Sorted (put t c) := by
  induction t with
  | nil =>
      intro g hg c' hc'
      obtain rfl := List.mem_singleton.mp hg
      obtain rfl := List.mem_singleton.mp hc'
      rfl
  | cons g t ih =>
      have hrest : Sorted t := fun g' hg' => h g' (List.mem_cons_of_mem _ hg')
      unfold put Table.alter
      split
      · next heq =>
        intro g' hg' c' hc'
        rcases List.mem_cons.mp hg' with rfl | hmem
        · rcases List.mem_append.mp hc' with hold | hnew
          · exact h g List.mem_cons_self c' hold
          · rw [List.mem_singleton.mp hnew, beq_iff_eq.mp heq]
        · exact hrest g' hmem c' hc'
      · intro g' hg' c' hc'
        rcases List.mem_cons.mp hg' with rfl | hmem
        · exact h g' List.mem_cons_self c' hc'
        · exact ih hrest g' hmem c' hc'

theorem put_perm (t : Table (List Check)) (c : Check) :
    ((put t c).flatMap (·.2)).Perm (t.flatMap (·.2) ++ [c]) := by
  induction t with
  | nil => rfl
  | cons g t ih =>
      unfold put Table.alter
      split
      · rw [List.flatMap_cons, List.flatMap_cons, Option.getD_some, List.append_assoc,
          List.append_assoc]
        exact List.Perm.append_left _ List.perm_append_comm
      · rw [List.flatMap_cons, List.flatMap_cons, List.append_assoc]
        exact List.Perm.append_left _ ih

theorem sorted_foldl {t : Table (List Check)} (h : Sorted t) (checks : List Check) :
    Sorted (checks.foldl put t) := by
  induction checks generalizing t with
  | nil => exact h
  | cons c checks ih => exact ih (sorted_put h c)

theorem foldl_put_perm (t : Table (List Check)) (checks : List Check) :
    ((checks.foldl put t).flatMap (·.2)).Perm (t.flatMap (·.2) ++ checks) := by
  induction checks generalizing t with
  | nil => rw [List.append_nil]; rfl
  | cons c checks ih =>
      refine (ih (put t c)).trans ?_
      rw [← List.singleton_append, ← List.append_assoc]
      exact (put_perm t c).append_right checks

theorem sorted_grouped (checks : List Check) : Sorted (grouped checks) :=
  sorted_foldl (fun _ h => absurd h List.not_mem_nil) checks

/-- Grouping keeps every check once. -/
theorem grouped_perm (checks : List Check) : ((grouped checks).flatMap (·.2)).Perm checks :=
  foldl_put_perm [] checks

/-! ## The pattern -/

/-- What is added is a remark and a pattern with the checks. -/
theorem addition_eq_ok {declared : List SpaceDeclaration} {checks : List Check} {name : Option String}
    {generated : String} {new : List Node} (h : addition declared checks name generated = .ok new) :
    ∃ remark pattern, new = [remark, pattern] ∧ idOf? pattern = some (patternId name) ∧
      (patternChecks pattern).Perm checks := by
  obtain ⟨comment, -, h⟩ := bind_eq_ok.mp h
  obtain ⟨id, hid, h⟩ := bind_eq_ok.mp h
  obtain ⟨rules, hrules, h⟩ := bind_eq_ok.mp h
  cases h
  obtain rfl := attributeOf_eq_ok hid
  refine ⟨_, _, rfl, ?_, ?_⟩
  · simp [idOf?, Node.attribute?, Name.isPlain]
  · have hread : rules.flatMap ruleChecks = (grouped checks).flatMap (·.2) := by
      refine flatMap_mapM ?_ hrules
      intro g hg n hn
      exact ruleChecks_ruleNode (sorted_grouped checks g hg) hn
    -- whatever the qualifier, the pattern is found in the namespace of rules
    have hpattern : ∀ q new, patternChecks (.element (nameOf q "pattern") new
        [{ name := { base := "id" }, value := patternId name }] rules) =
          rules.flatMap ruleChecks := by
      simp [patternChecks, nameOf, Name.isIn]
    rw [hpattern, hread]
    exact grouped_perm checks

/-- An injected source is the source with one more pattern, which has the id of the profile and each
check that the assertions ask for once. -/
theorem inject_eq_ok {source injected : RuleSource} {as : List Assertion} {name : Option String}
    {generated : String} (h : inject source as name generated = .ok injected) :
    ∃ d remark pattern, Faithful.read? source.content = some d ∧
      injected = { source with content := { d with root := d.root.append [remark, pattern] }.bytes } ∧
      idOf? pattern = some (patternId name) ∧
      (patternChecks pattern).Perm (as.filterMap Assertion.check?) := by
  unfold inject at h
  split at h
  · cases h
  · next d hd =>
    split at h
    · cases h
    · next new hnew =>
      cases h
      obtain ⟨remark, pattern, rfl, hid, hchecks⟩ := addition_eq_ok hnew
      exact ⟨d, remark, pattern, hd, rfl, hid, hchecks⟩

end Conformity.Injection
