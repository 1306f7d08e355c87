import Conformity.Proofs.Markup.Joined
import Conformity.Proofs.Markup.Scope
import Conformity.Proofs.RuleSet.Settable

/-!
# What exposing parameters changes

Exposing parameters changes the sort of some elements at the top level of a stylesheet, and nothing
else (`Parameters.Retagged`). If nothing has to change, the stylesheet keeps its bytes, and nothing has
to change in what comes out (`Parameters.expose_exact`).
-/

namespace Conformity.Parameters

open Markup

variable {allowed bound : List String} {outer : List SpaceDeclaration} {base name : String} {c : Node}
  {g s : Document} {generated : Bytes}

/-! ## One node -/

/-- A node at the top level of a stylesheet, below a root with declarations, before and after. -/
inductive Retagged (allowed bound : List String) (outer : List SpaceDeclaration) : Node → Node → Prop
  /-- A variable with an allowed name becomes a parameter. -/
  | opened {tag : Name} {declared : List SpaceDeclaration} {as : List Attribute} {children : List Node}
      {n : String} {q : Option String} :
      named? (.element tag declared as children) = some ("variable", n) → n ∈ allowed →
        ⟨q, stylesheetSpace⟩ ∈ declared ++ outer →
          Retagged allowed bound outer (.element tag declared as children)
            (.element ⟨some stylesheetSpace, q, "param"⟩ declared as children)
  /-- A parameter with a bound name that is not allowed becomes a variable. -/
  | closed {tag : Name} {declared : List SpaceDeclaration} {as : List Attribute} {children : List Node}
      {n : String} {q : Option String} :
      named? (.element tag declared as children) = some ("param", n) → n ∉ allowed → n ∈ bound →
        ⟨q, stylesheetSpace⟩ ∈ declared ++ outer →
          Retagged allowed bound outer (.element tag declared as children)
            (.element ⟨some stylesheetSpace, q, "variable"⟩ declared as children)
  /-- Every other node stays as it is. -/
  | kept {c : Node} : (∀ n ∈ allowed, named? c ≠ some ("variable", n)) →
      (∀ n ∈ bound, n ∉ allowed → named? c ≠ some ("param", n)) → Retagged allowed bound outer c c

theorem space_of_named? {tag : Name} {declared : List SpaceDeclaration} {as : List Attribute}
    {children : List Node} {p : String × String}
    (h : named? (.element tag declared as children) = some p) : tag.space = some stylesheetSpace := by
  simp only [named?] at h
  split at h
  · assumption
  · cases h

/-- What a node has to become, if it has to change. -/
theorem newBase?_cases (allowed bound : List String) (c : Node) :
    (∃ n ∈ allowed, named? c = some ("variable", n) ∧ newBase? allowed bound c = some "param") ∨
      (∃ n ∈ bound, n ∉ allowed ∧ named? c = some ("param", n) ∧
        newBase? allowed bound c = some "variable") ∨
      (∀ n ∈ allowed, named? c ≠ some ("variable", n)) ∧
        (∀ n ∈ bound, n ∉ allowed → named? c ≠ some ("param", n)) ∧
        newBase? allowed bound c = none := by
  rcases hnamed : named? c with _ | ⟨sort, name⟩
  · exact .inr (.inr ⟨by simp, by simp, newBase?_of_not_named? hnamed⟩)
  · rw [newBase?_of_named? hnamed, settled]
    by_cases hopened : sort = "variable" ∧ name ∈ allowed
    · obtain ⟨rfl, hn⟩ := hopened
      exact .inl ⟨name, hn, rfl, by simp [hn]⟩
    · by_cases hclosed : sort = "param" ∧ name ∉ allowed ∧ name ∈ bound
      · obtain ⟨rfl, hn, hbound⟩ := hclosed
        exact .inr (.inl ⟨name, hbound, hn, rfl, by simp [hn, hbound]⟩)
      · refine .inr (.inr ⟨?_, ?_, ?_⟩)
        · rintro n hn ⟨⟩
          exact hopened ⟨rfl, hn⟩
        · rintro n hbound hn ⟨⟩
          exact hclosed ⟨rfl, hn, hbound⟩
        · rw [if_neg hopened, if_neg hclosed, if_pos rfl]

/-- An element of the stylesheet language gets another sort, and stays as it is otherwise. -/
theorem exists_rename_eq {p : String × String} (hresolved : c.Resolved outer.reverse)
    (hnamed : named? c = some p) (base : String) : ∃ tag declared as children q,
      c = .element tag declared as children ∧ ⟨q, stylesheetSpace⟩ ∈ declared ++ outer ∧
        c.rename stylesheetSpace base [outer] =
          .element ⟨some stylesheetSpace, q, base⟩ declared as children := by
  cases c with
  | element tag declared as children =>
      obtain ⟨q, hrename, hq⟩ :=
        Node.exists_rename_eq hresolved (space_of_named? hnamed) (by decide) base
      exact ⟨tag, declared, as, children, q, rfl, hq, hrename⟩
  | _ => cases hnamed

theorem retagged_rebound (hresolved : c.Resolved outer.reverse) :
    Retagged allowed bound outer c (rebound allowed bound [outer] c) := by
  unfold rebound
  rcases newBase?_cases allowed bound c with
    ⟨n, hn, hnamed, hbase⟩ | ⟨n, hbound, hn, hnamed, hbase⟩ | ⟨hvariable, hparam, hbase⟩
  · obtain ⟨tag, declared, as, children, q, rfl, hq, hrename⟩ :=
      exists_rename_eq hresolved hnamed "param"
    rw [hbase]
    dsimp only
    rw [hrename]
    exact .opened hnamed hn hq
  · obtain ⟨tag, declared, as, children, q, rfl, hq, hrename⟩ :=
      exists_rename_eq hresolved hnamed "variable"
    rw [hbase]
    dsimp only
    rw [hrename]
    exact .closed hnamed hn hbound hq
  · rw [hbase]
    exact .kept hvariable hparam

/-! ## The top level -/

/-- The root of a stylesheet before and after: some of its children have become of another sort. -/
inductive RetaggedRoot (allowed bound : List String) : Node → Node → Prop
  | mk {tag : Name} {declared : List SpaceDeclaration} {as : List Attribute}
      {children children' : List Node} :
      List.Forall₂ (Retagged allowed bound declared) children children' →
        RetaggedRoot allowed bound (.element tag declared as children)
          (.element tag declared as children')

/-- No element at the top level of a stylesheet has to change its sort. -/
structure IsSettled (allowed bound : List String) (s : Document) : Prop where
  noVariable : ∀ n ∈ allowed, ¬ HasTop "variable" s n
  noParam : ∀ n ∈ bound, n ∉ allowed → ¬ HasTop "param" s n

theorem Settles.isSettled (h : Settles allowed bound g s) : IsSettled allowed bound s where
  noVariable n hn htop := (h.variable_iff.mp htop).1 hn
  noParam n hbound hn htop := by
    rcases h.param_iff.mp htop with ⟨hallowed, -⟩ | ⟨hallowed | hfree, -⟩
    · exact hn hallowed
    · exact hn hallowed
    · exact hfree hbound

theorem isSettled_iff : IsSettled allowed bound s ↔
    ∀ c ∈ children s.root, newBase? allowed bound c = none := by
  constructor
  · intro h c hc
    rcases newBase?_cases allowed bound c with
      ⟨n, hn, hnamed, -⟩ | ⟨n, hbound, hn, hnamed, -⟩ | ⟨-, -, hbase⟩
    · exact absurd (hasTop_iff.mpr ⟨c, hc, hnamed⟩) (h.noVariable n hn)
    · exact absurd (hasTop_iff.mpr ⟨c, hc, hnamed⟩) (h.noParam n hbound hn)
    · exact hbase
  · intro h
    exact (settles_self h).isSettled

theorem retaggedRoot_reboundRoot (hread : Faithful.read? generated = some g)
    (allowed bound : List String) :
    RetaggedRoot allowed bound g.root (reboundRoot allowed bound g.root) := by
  obtain ⟨⟨tag, declared, as, cs, hroot⟩, hresolved⟩ := Faithful.resolved_of_read? hread
  rw [hroot] at hresolved ⊢
  cases hresolved with
  | element _ hchildren =>
      refine .mk (List.forall₂_map_right_iff.mpr (List.forall₂_same.mpr fun c hc => ?_))
      exact retagged_rebound (by simpa using hchildren c hc)

/-- The root stays as it is exactly if nothing has to change. -/
theorem reboundRoot_eq_iff (hread : Faithful.read? generated = some g) :
    reboundRoot allowed bound g.root = g.root ↔ IsSettled allowed bound g := by
  constructor
  · intro h
    have hsettled := (settles_rebound allowed bound g).isSettled
    rwa [h] at hsettled
  · intro h
    obtain ⟨⟨tag, declared, as, cs, hroot⟩, -⟩ := Faithful.resolved_of_read? hread
    have hchildren := children_reboundRoot_of_unchanged (isSettled_iff.mp h)
    rw [hroot] at hchildren ⊢
    exact congrArg (Node.element tag declared as) hchildren

/-- The top level is the same if the stylesheet is read again, and its texts are cut in another way. -/
theorem hasTop_iff_of_joined (h : g.root.joined = s.root.joined) (base name : String) :
    HasTop base g name ↔ HasTop base s name := by
  have hnamed : ∀ n : Node, named? n.joined = named? n := by rintro (_ | _ | _ | _ | _) <;> rfl
  have hchildren : ∀ n : Node, children n.joined = Node.joinedAll (children n) := by
    rintro (_ | _ | _ | _ | _) <;> rfl
  have htops : (children g.root).filterMap named? = (children s.root).filterMap named? := by
    rw [← Node.filterMap_joinedAll (fun _ => rfl) hnamed (children g.root), ← hchildren, h, hchildren,
      Node.filterMap_joinedAll (fun _ => rfl) hnamed]
  rw [hasTop_iff, hasTop_iff, ← List.mem_filterMap, htops, List.mem_filterMap]

/-! ## The whole stylesheet -/

/-- A stylesheet whose top level is as it has to be. -/
def settledDocument (allowed bound : List String) (g : Document) : Document :=
  { g with root := reboundRoot allowed bound g.root }

/-- A stylesheet before and after: its root, and what stands around it. -/
structure Exposes (allowed bound : List String) (g s : Document) : Prop where
  root : RetaggedRoot allowed bound g.root s.root
  around : s = { g with root := s.root }

theorem expose_eq (hread : Faithful.read? generated = some g) (allowed bound : List String) :
    expose generated allowed bound =
      .ok (if (settledDocument allowed bound g).root = g.root then generated
          else (settledDocument allowed bound g).bytes,
        Text.sortedSet ((children g.root).filterMap (exposed? allowed))) := by
  have hsame : (settledDocument allowed bound g).root = g.root ↔
      ∀ c ∈ children g.root, newBase? allowed bound c = none :=
    (reboundRoot_eq_iff hread).trans isSettled_iff
  rw [expose_eq_ok hread, if_congr hsame rfl rfl, settledDocument]

/-- Exposing parameters makes parameters of the allowed variables at the top level and variables of the
bound parameters that are not allowed, and changes nothing else; told are the allowed names of either
sort. The bytes stay if nothing changes. Exposing parameters once more changes nothing and tells the
same, if what came out is read as it was written. -/
theorem expose_exact (hread : Faithful.read? generated = some g) (allowed bound : List String) :
    ∃ content exposed, expose generated allowed bound = .ok (content, exposed) ∧
      Exposes allowed bound g (settledDocument allowed bound g) ∧
      IsSettled allowed bound (settledDocument allowed bound g) ∧
      (∀ n, n ∈ exposed ↔ n ∈ allowed ∧ (HasTop "variable" g n ∨ HasTop "param" g n)) ∧
      content = (if (settledDocument allowed bound g).root = g.root then generated
        else (settledDocument allowed bound g).bytes) ∧
      ((settledDocument allowed bound g).ReadsBack →
        expose content allowed bound = .ok (content, exposed)) := by
  have hsettles : Settles allowed bound g (settledDocument allowed bound g) :=
    settles_rebound allowed bound g
  have hsettled := hsettles.isSettled
  refine ⟨_, _, expose_eq hread allowed bound, ⟨retaggedRoot_reboundRoot hread allowed bound, rfl⟩,
    hsettled, ?_, rfl, ?_⟩
  · intro n
    rw [hsettles.mem_exposed_iff]
    refine and_congr_right fun hn => ?_
    rw [hsettles.param_iff]
    simp [hn]
  · rintro ⟨d, hread', hsame⟩
    by_cases hroot : (settledDocument allowed bound g).root = g.root
    · -- the bytes are those that were given
      rw [if_pos hroot, expose_eq hread, if_pos hroot]
    · -- what came out is read as a stylesheet with the same names at its top level
      have htops := hasTop_iff_of_joined hsame.root
      have hagain : IsSettled allowed bound d :=
        ⟨fun n hn htop => hsettled.noVariable n hn ((htops _ _).mp htop),
          fun n hbound hn htop => hsettled.noParam n hbound hn ((htops _ _).mp htop)⟩
      have hexposed : Text.sortedSet ((children d.root).filterMap (exposed? allowed)) =
          Text.sortedSet ((children g.root).filterMap (exposed? allowed)) := by
        have hself := settles_self (isSettled_iff.mp hagain)
        rw [Text.sortedSet_eq_sortedSet_iff]
        intro n
        rw [← Text.mem_sortedSet, hself.mem_exposed_iff, htops, ← hsettles.mem_exposed_iff,
          Text.mem_sortedSet]
      have hroot' : (settledDocument allowed bound d).root = d.root :=
        (reboundRoot_eq_iff hread').mpr hagain
      rw [if_neg hroot, expose_eq hread', if_pos hroot', hexposed]

/-- A stylesheet with a variable and a parameter of one name, another parameter with a variable of the
first name inside, a third parameter, and remarks. -/
def tariffStylesheet : Bytes := bytesOf
  ("<s:transform xmlns:s=\"http://www.w3.org/1999/XSL/Transform\"><!-- tariff -->" ++
    "<s:variable name=\"rate\" select=\"1\"/><s:param name=\"rate\"/>a &lt; b" ++
    "<s:param name=\"zone\" xmlns=\"urn:z\"><s:variable name=\"rate\"/></s:param>" ++
    "<s:param name=\"other\"/></s:transform>")

theorem expose_exact_of_tariff : ∃ g s content exposed,
    Faithful.read? tariffStylesheet = some g ∧
      expose tariffStylesheet ["rate"] ["rate", "zone"] = .ok (content, exposed) ∧
      Exposes ["rate"] ["rate", "zone"] g s ∧ IsSettled ["rate"] ["rate", "zone"] s ∧
      (∀ n, n ∈ exposed ↔ n ∈ ["rate"] ∧ (HasTop "variable" g n ∨ HasTop "param" g n)) ∧
      s.root ≠ g.root ∧ content = s.bytes ∧
      expose content ["rate"] ["rate", "zone"] = .ok (content, exposed) := by
  have hback : (Faithful.read? tariffStylesheet).any fun g =>
      (settledDocument ["rate"] ["rate", "zone"] g).root ≠ g.root ∧
        (settledDocument ["rate"] ["rate", "zone"] g).ReadsBack := by
    decide +kernel
  obtain ⟨g, hread, hback⟩ := (Option.any_eq_true _ _).mp hback
  obtain ⟨hroot, hback⟩ := of_decide_eq_true hback
  obtain ⟨content, exposed, hexpose, hexposes, hsettled, hexposed, hcontent, hagain⟩ :=
    expose_exact hread ["rate"] ["rate", "zone"]
  exact ⟨g, _, content, exposed, hread, hexpose, hexposes, hsettled, hexposed, hroot,
    hcontent.trans (if_neg hroot), hagain hback⟩

end Conformity.Parameters
