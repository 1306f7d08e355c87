import Conformity.Proofs.Markup.Joined
import Conformity.Proofs.Once
import Conformity.Proofs.Schema.Twice
import Conformity.Proofs.Work
import Mathlib.Data.Finset.Card
import Mathlib.Data.Finset.Dedup

/-!
# What overrides change

Overrides set the bounds of the references to their elements, wherever these stand in a schema, and
leave everything else as it is (`Overridden.Applied`). Which of them found their element can be told
from the references (`Overridden.Tells`). They can be applied to every schema if their bounds can be
written, and to apply them again to what came out changes nothing (`Overridden.apply_exact`).
-/

namespace Conformity

open Markup

/-- A node is a tree or lies within it, at whatever depth. -/
inductive Markup.Node.IsWithin (n : Node) : Node → Prop
  | self : IsWithin n n
  | child {name : Name} {declared : List SpaceDeclaration} {as : List Attribute} {c : Node}
      {children : List Node} : c ∈ children → IsWithin n c →
        IsWithin n (.element name declared as children)

namespace Overridden

variable {os : List Override} {o : Override} {name : Name} {as as' : List Attribute}
  {n n' root root' : Node} {element k k' v : String} {x : Option String}

/-! ## The last override -/

/-- The override is there, and none for its element comes after it. -/
def IsLast (os : List Override) (o : Override) : Prop :=
  ∃ before after, os = before ++ o :: after ∧ ∀ p ∈ after, p.element ≠ o.element

theorem last?_eq_some_iff : last? os element = some o ↔ o.element = element ∧ IsLast os o := by
  rw [last?, List.find?_eq_some_iff_append]
  constructor
  · rintro ⟨ho, after, before, hos, hafter⟩
    have helement : o.element = element := beq_iff_eq.mp ho
    refine ⟨helement, before.reverse, after.reverse, ?_, ?_⟩
    · simpa using congrArg List.reverse hos
    · intro p hp
      simpa [helement] using hafter p (List.mem_reverse.mp hp)
  · rintro ⟨rfl, before, after, rfl, hafter⟩
    refine ⟨beq_self_eq_true _, after.reverse, before.reverse, by simp, ?_⟩
    intro p hp
    simpa using hafter p (List.mem_reverse.mp hp)

theorem IsLast.mem (h : IsLast os o) : o ∈ os := by
  obtain ⟨before, after, rfl, -⟩ := h
  simp

/-! ## The attributes of one element -/

/-- Does an override set an attribute? -/
def sets (o : Override) (name : Name) : Bool :=
  o.minOccurs.isSome && name.isPlain "minOccurs" || o.maxOccurs.isSome && name.isPlain "maxOccurs"

/-- The names of attributes that a bound adds. -/
def added (k : String) (x : Option String) (as : List Attribute) : List Name :=
  if x.isSome && (Node.attribute? k as).isNone then [{ base := k }] else []

/-- Attributes before and after the bounds of an override were set. A bound that the override leaves
out is an attribute like any other. -/
structure Bounded (o : Override) (as as' : List Attribute) : Prop where
  minOccurs : ∀ v, o.minOccurs = some v → Node.HasValue "minOccurs" v as'
  maxOccurs : ∀ v, o.maxOccurs = some v → Node.HasValue "maxOccurs" v as'
  /-- What the override does not set stays as it is. -/
  others : (as'.filter fun a => !sets o a.name) = as.filter fun a => !sets o a.name
  /-- Every attribute keeps its place; a bound that was not there comes behind the others. -/
  names : as'.map (·.name) =
    as.map (·.name) ++ added "minOccurs" o.minOccurs as ++ added "maxOccurs" o.maxOccurs as

theorem hasValue_withBound (h : x = some v) (as : List Attribute) :
    Node.HasValue k v (withBound k x as) := by
  subst h
  exact Node.hasValue_setAttribute k v as

theorem hasValue_withBound_of_ne (hne : k ≠ k') (h : Node.HasValue k' v as) (x : Option String) :
    Node.HasValue k' v (withBound k x as) := by
  cases x with
  | none => exact h
  | some w => exact h.setAttribute hne w

theorem withBound_eq_self (h : ∀ v, x = some v → Node.HasValue k v as) : withBound k x as = as := by
  cases x with
  | none => rfl
  | some v => exact (h v rfl).setAttribute_eq

theorem filter_withBound {p : Attribute → Bool}
    (h : x.isSome → ∀ a : Attribute, a.name.isPlain k → ¬ p a) (as : List Attribute) :
    (withBound k x as).filter p = as.filter p := by
  cases x with
  | none => rfl
  | some v => exact Node.filter_setAttribute (h rfl) v as

theorem names_withBound (k : String) (x : Option String) (as : List Attribute) :
    (withBound k x as).map (·.name) = as.map (·.name) ++ added k x as := by
  cases x with
  | none => simp [withBound, added]
  | some v =>
      rw [added, withBound, Option.map_some, Option.getD_some, Node.names_setAttribute]
      cases Node.attribute? k as <;> rfl

theorem added_withBound (hne : k ≠ k') (x y : Option String) (as : List Attribute) :
    added k' y (withBound k x as) = added k' y as := by
  cases x with
  | none => rfl
  | some v =>
      rw [added, added, withBound, Option.map_some, Option.getD_some, Node.attribute?_setAttribute hne]

theorem bounded_withBounds (o : Override) (as : List Attribute) :
    Bounded o as (withBounds (o.minOccurs, o.maxOccurs) as) where
  minOccurs v hv := hasValue_withBound_of_ne (by decide) (hasValue_withBound hv as) o.maxOccurs
  maxOccurs v hv := hasValue_withBound hv _
  others := by
    have hmin : o.minOccurs.isSome → ∀ a : Attribute, a.name.isPlain "minOccurs" →
        ¬ (!sets o a.name) := fun hset a ha => by simp [sets, hset, ha]
    have hmax : o.maxOccurs.isSome → ∀ a : Attribute, a.name.isPlain "maxOccurs" →
        ¬ (!sets o a.name) := fun hset a ha => by simp [sets, hset, ha]
    -- each bound is set only if the override has it, and then it is none of the others
    rw [withBounds, filter_withBound hmax, filter_withBound hmin]
  names := by
    rw [withBounds, names_withBound, names_withBound, added_withBound (by decide)]

/-- Attributes with the bounds of an override stay as they are if it sets them again. -/
theorem Bounded.withBounds_eq (h : Bounded o as as') :
    withBounds (o.minOccurs, o.maxOccurs) as' = as' := by
  rw [withBounds, withBound_eq_self h.minOccurs, withBound_eq_self h.maxOccurs]

theorem Bounded.reference?_eq (h : Bounded o as as') (name : Name) :
    reference? name as' = reference? name as := by
  -- `ref` is an attribute that no override sets
  have hkept : ∀ as : List Attribute, as.find? (·.name.isPlain "ref") =
      (as.filter fun a => !sets o a.name).find? (·.name.isPlain "ref") := by
    intro as
    rw [List.find?_filter]
    congr
    funext a
    by_cases ha : a.name.isPlain "ref"
    · have hmin : ¬ a.name.isPlain "minOccurs" := fun h => absurd (Name.eq_of_isPlain ha h) (by decide)
      have hmax : ¬ a.name.isPlain "maxOccurs" := fun h => absurd (Name.eq_of_isPlain ha h) (by decide)
      simp [sets, ha, hmin, hmax]
    · simp [ha]
  rw [reference?, reference?, Node.attribute?, Node.attribute?, hkept as', h.others, ← hkept as]

/-- What becomes of the attributes of an element. -/
inductive Adjusted (os : List Override) (name : Name) (as as' : List Attribute) : Prop
  /-- At a reference to an element with overrides, the last one sets its bounds. -/
  | bounded {o : Override} (href : reference? name as = some o.element) (hlast : IsLast os o)
      (hbounded : Bounded o as as')
  /-- Elsewhere all stays as it is. -/
  | kept (hnone : ∀ o ∈ os, reference? name as ≠ some o.element) (heq : as' = as)

theorem Adjusted.reference?_eq (h : Adjusted os name as as') :
    reference? name as' = reference? name as := by
  cases h with
  | bounded _ _ hbounded => exact hbounded.reference?_eq name
  | kept _ heq => rw [heq]

/-- The bounds of overrides can be written. -/
def Writable (os : List Override) : Prop :=
  ∀ o ∈ os, o.minOccurs.all isWritable ∧ o.maxOccurs.all isWritable

theorem overriddenAttributes_of_isLast (hos : Writable os)
    (href : reference? name as = some o.element) (hlast : IsLast os o) :
    overriddenAttributes os name as = .ok (withBounds (o.minOccurs, o.maxOccurs) as) := by
  obtain ⟨hmin, hmax⟩ := hos o hlast.mem
  have heffect : effectOn os o.element = some (o.minOccurs, o.maxOccurs) := by
    simp [effectOn, last?_eq_some_iff.mpr ⟨rfl, hlast⟩, effect, hmin, hmax]
  apply eq_ok_of_toOption
  rw [overriddenAttributes_toOption, href]
  simp only [heffect, Option.map_some]

theorem overriddenAttributes_of_none (hnone : ∀ o ∈ os, reference? name as ≠ some o.element) :
    overriddenAttributes os name as = .ok as := by
  have hlast : (reference? name as).bind (last? os) = none := by
    cases href : reference? name as with
    | none => rfl
    | some element => exact last?_eq_none.mpr fun o ho h => hnone o ho (href.trans (h ▸ rfl))
  rw [overriddenAttributes, hlast]

theorem exists_adjusted (hos : Writable os) (name : Name) (as : List Attribute) :
    ∃ as', overriddenAttributes os name as = .ok as' ∧ Adjusted os name as as' := by
  cases hlast : (reference? name as).bind (last? os) with
  | some o =>
      obtain ⟨element, href, helement⟩ := Option.bind_eq_some_iff.mp hlast
      obtain ⟨rfl, ho⟩ := last?_eq_some_iff.mp helement
      exact ⟨_, overriddenAttributes_of_isLast hos href ho, .bounded href ho (bounded_withBounds o as)⟩
  | none =>
      have hnone : ∀ o ∈ os, reference? name as ≠ some o.element := by
        intro o ho href
        rw [href] at hlast
        exact last?_eq_none.mp hlast o ho rfl
      exact ⟨as, overriddenAttributes_of_none hnone, .kept hnone rfl⟩

/-- Attributes that were adjusted once stay as they are. -/
theorem Adjusted.again (h : Adjusted os name as as') (hos : Writable os) :
    overriddenAttributes os name as' = .ok as' := by
  have href := h.reference?_eq
  cases h with
  | bounded hto hlast hbounded =>
      rw [overriddenAttributes_of_isLast hos (href.trans hto) hlast, hbounded.withBounds_eq]
  | kept hnone _ =>
      exact overriddenAttributes_of_none fun o ho => href ▸ hnone o ho

/-! ## The whole schema -/

/-- A schema before and after overrides were applied. -/
inductive Applied (os : List Override) : Node → Node → Prop
  | element {name : Name} {declared : List SpaceDeclaration} {as as' : List Attribute}
      {children children' : List Node} : Adjusted os name as as' →
        List.Forall₂ (Applied os) children children' →
          Applied os (.element name declared as children) (.element name declared as' children')
  | text (content : String) : Applied os (.text content) (.text content)
  | entity (name : String) : Applied os (.entity name) (.entity name)
  | comment (content : String) : Applied os (.comment content) (.comment content)
  | instruction (target : String) (data : Option String) :
      Applied os (.instruction target data) (.instruction target data)

mutual

theorem exists_applied (hos : Writable os) : ∀ n, ∃ n', node os n = .ok n' ∧ Applied os n n'
  | .element name declared as children => by
      obtain ⟨as', has, hadjusted⟩ := exists_adjusted hos name as
      obtain ⟨children', hchildren, happlied⟩ := exists_appliedAll hos children
      refine ⟨.element name declared as' children', ?_, .element hadjusted happlied⟩
      rw [node, has, hchildren]
      rfl
  | .text s => ⟨_, rfl, .text s⟩
  | .entity s => ⟨_, rfl, .entity s⟩
  | .comment s => ⟨_, rfl, .comment s⟩
  | .instruction s data => ⟨_, rfl, .instruction s data⟩

theorem exists_appliedAll (hos : Writable os) :
    ∀ ns, ∃ ns', nodes os ns = .ok ns' ∧ List.Forall₂ (Applied os) ns ns'
  | [] => ⟨[], rfl, .nil⟩
  | n :: ns => by
      obtain ⟨n', hn, happlied⟩ := exists_applied hos n
      obtain ⟨ns', hns, happliedAll⟩ := exists_appliedAll hos ns
      refine ⟨n' :: ns', ?_, .cons happlied happliedAll⟩
      rw [nodes, hn, hns]
      rfl

end

/-! ## Elements one by one

What overrides do to a schema and tell about it depends on the names and attributes of its elements.
These are the same if the schema is read again, and its texts are cut in another way.
-/

/-- The name and the attributes of an element. -/
def head? : Node → Option (Name × List Attribute)
  | .element name _ as _ => some (name, as)
  | _ => none

/-- The names and the attributes of all elements of a tree. -/
def heads (n : Node) : List (Name × List Attribute) := n.elements.filterMap head?

theorem heads_eq_of_joined (h : root.joined = root'.joined) : heads root = heads root' := by
  have hhead : ∀ n : Node, head? n.joined = head? n := by rintro (_ | _ | _ | _ | _) <;> rfl
  rw [heads, ← Node.filterMap_elements_joined hhead root, h, Node.filterMap_elements_joined hhead root',
    heads]

theorem references_eq (root : Node) :
    references root = (heads root).filterMap fun h => reference? h.1 h.2 := by
  rw [references, heads, List.filterMap_filterMap]
  congr
  funext n
  cases n <;> rfl

mutual

/-- The elements before and after belong together, one by one. -/
theorem Applied.heads : ∀ {n n' : Node}, Applied os n n' →
    List.Forall₂ (fun h h' => h'.1 = h.1 ∧ Adjusted os h.1 h.2 h'.2) (heads n) (heads n')
  | .element .., _, .element hadjusted hchildren =>
      .cons ⟨rfl, hadjusted⟩ (forall₂_heads hchildren)
  | .text _, _, .text _ => .nil
  | .entity _, _, .entity _ => .nil
  | .comment _, _, .comment _ => .nil
  | .instruction _ _, _, .instruction _ _ => .nil

theorem forall₂_heads : ∀ {ns ns' : List Node}, List.Forall₂ (Applied os) ns ns' →
    List.Forall₂ (fun h h' => h'.1 = h.1 ∧ Adjusted os h.1 h.2 h'.2)
      ((Node.elementsOfAll ns).filterMap head?) ((Node.elementsOfAll ns').filterMap head?)
  | [], _, .nil => .nil
  | n :: ns, _, .cons hn hns => by
      rw [Node.elementsOfAll, Node.elementsOfAll, List.filterMap_append, List.filterMap_append]
      exact List.rel_append (Applied.heads hn) (forall₂_heads hns)

end

theorem Applied.references_eq (h : Applied os n n') : references n' = references n := by
  rw [Overridden.references_eq, Overridden.references_eq]
  have hheads := h.heads
  generalize Overridden.heads n = hs, Overridden.heads n' = hs' at hheads ⊢
  induction hheads with
  | nil => rfl
  | cons hhead _ ih =>
      obtain ⟨hname, hadjusted⟩ := hhead
      rw [List.filterMap_cons, List.filterMap_cons, hname, hadjusted.reference?_eq, ih]

mutual

/-- A schema stays as it is if the attributes of its elements do. -/
theorem node_eq_self : ∀ {n : Node}, (∀ h ∈ heads n, overriddenAttributes os h.1 h.2 = .ok h.2) →
    node os n = .ok n
  | .element name declared as children, h => by
      obtain ⟨has, hchildren⟩ := List.forall_mem_cons.mp h
      rw [node, has, nodes_eq_self hchildren]
      rfl
  | .text _, _ => rfl
  | .entity _, _ => rfl
  | .comment _, _ => rfl
  | .instruction _ _, _ => rfl

theorem nodes_eq_self : ∀ {ns : List Node},
    (∀ h ∈ (Node.elementsOfAll ns).filterMap head?, overriddenAttributes os h.1 h.2 = .ok h.2) →
      nodes os ns = .ok ns
  | [], _ => rfl
  | n :: ns, h => by
      rw [Node.elementsOfAll, List.filterMap_append] at h
      obtain ⟨hn, hns⟩ := List.forall_mem_append.mp h
      rw [nodes, node_eq_self hn, nodes_eq_self hns]
      rfl

end

theorem Applied.stays (h : Applied os n n') (hos : Writable os) :
    ∀ h ∈ Overridden.heads n', overriddenAttributes os h.1 h.2 = .ok h.2 := by
  have hheads := h.heads
  generalize Overridden.heads n = hs, Overridden.heads n' = hs' at hheads ⊢
  induction hheads with
  | nil => exact List.forall_mem_nil _
  | cons hhead _ ih =>
      obtain ⟨hname, hadjusted⟩ := hhead
      exact List.forall_mem_cons.mpr ⟨hname ▸ hadjusted.again hos, ih⟩

/-- A schema with overrides stays as it is if they are applied again, however its texts are cut. -/
theorem Applied.again (h : Applied os n n') (hos : Writable os) (hroot : root.joined = n'.joined) :
    node os root = .ok root := by
  apply node_eq_self
  rw [heads_eq_of_joined hroot]
  exact h.stays hos

/-! ## What is told -/

/-- A reference to the element stands in a tree. -/
def Refers (root : Node) (element : String) : Prop :=
  ∃ name declared as children, Node.IsWithin (.element name declared as children) root ∧
    reference? name as = some element

mutual

theorem mem_elements_iff {name : Name} {declared : List SpaceDeclaration} {as : List Attribute}
    {children : List Node} : ∀ n : Node, .element name declared as children ∈ n.elements ↔
      Node.IsWithin (.element name declared as children) n
  | .element .. => by
      rw [Node.elements, List.mem_cons, mem_elementsOfAll_iff]
      constructor
      · rintro (heq | ⟨c, hc, hwithin⟩)
        · rw [heq]
          exact .self
        · exact .child hc hwithin
      · intro h
        cases h with
        | self => exact .inl rfl
        | child hc hwithin => exact .inr ⟨_, hc, hwithin⟩
  | .text _ => ⟨fun h => absurd h List.not_mem_nil, fun h => nomatch h⟩
  | .entity _ => ⟨fun h => absurd h List.not_mem_nil, fun h => nomatch h⟩
  | .comment _ => ⟨fun h => absurd h List.not_mem_nil, fun h => nomatch h⟩
  | .instruction _ _ => ⟨fun h => absurd h List.not_mem_nil, fun h => nomatch h⟩

theorem mem_elementsOfAll_iff {name : Name} {declared : List SpaceDeclaration} {as : List Attribute}
    {children : List Node} : ∀ ns : List Node,
      .element name declared as children ∈ Node.elementsOfAll ns ↔
        ∃ c ∈ ns, Node.IsWithin (.element name declared as children) c
  | [] => by simp [Node.elementsOfAll]
  | n :: ns => by
      rw [Node.elementsOfAll, List.mem_append, mem_elements_iff n, mem_elementsOfAll_iff ns]
      simp only [List.exists_mem_cons_iff]

end

theorem mem_references_iff : element ∈ references root ↔ Refers root element := by
  rw [references, List.mem_filterMap]
  constructor
  · rintro ⟨n, hmem, href⟩
    cases n with
    | element name declared as children =>
        exact ⟨name, declared, as, children, (mem_elements_iff root).mp hmem, href⟩
    | _ => cases href
  · rintro ⟨name, declared, as, children, hwithin, href⟩
    exact ⟨_, (mem_elements_iff root).mpr hwithin, href⟩

instance (root : Node) (element : String) : Decidable (Refers root element) :=
  decidable_of_iff _ mem_references_iff

theorem contains_references (root : Node) :
    (references root).contains = fun element => decide (Refers root element) := by
  funext element
  rw [List.contains_eq_mem]
  exact decide_eq_decide.mpr mem_references_iff

/-- A report tells which overrides find their element in a tree. -/
structure Tells (os : List Override) (root : Node) (r : OverrideReport) : Prop where
  /-- Each element counts once. -/
  matched : r.matched = ((os.map (·.element)).toFinset.filter (Refers root)).card
  /-- Each override whose element is nowhere referred to is named, in order. -/
  unmatched : r.unmatched = (os.filter fun o => ¬ Refers root o.element).map (·.element)
  status : ∀ o ∈ os, r.status o = if Refers root o.element then "OK" else "NOT FOUND"

theorem mem_unmatched_iff (ho : o ∈ os) :
    o.element ∈ (report os root).unmatched ↔ ¬ Refers root o.element := by
  have hmem : o.element ∈ os.map (·.element) := List.mem_map_of_mem ho
  rw [report, contains_references]
  simp only [List.mem_filter, hmem, true_and, Bool.not_eq_true', decide_eq_false_iff_not]

theorem tells_report (os : List Override) (root : Node) : Tells os root (report os root) where
  matched := by
    have hnodup := (nodup_eraseDups (os.map (·.element))).filter fun e => decide (Refers root e)
    rw [report, contains_references]
    dsimp only
    rw [← List.toFinset_card_of_nodup hnodup]
    congr 1
    ext element
    simp
  unmatched := by
    rw [report, contains_references]
    simp only [List.filter_map, Function.comp_def, decide_not]
  status o ho := by
    rw [OverrideReport.status, List.contains_eq_mem]
    by_cases hrefers : Refers root o.element
    · have hnot := mt (mem_unmatched_iff ho).mp (not_not_intro hrefers)
      rw [if_pos hrefers, if_neg (by simpa using hnot)]
    · have hmem := (mem_unmatched_iff ho).mpr hrefers
      rw [if_neg hrefers, if_pos (by simpa using hmem)]

/-! ## Applying overrides -/

theorem apply_eq_of_node {source : Bytes} {d : Document} (hread : Faithful.read? source = some d)
    (hroot : node os d.root = .ok root) :
    apply source os = .ok (({ d with root } : Document).bytes, report os d.root) := by
  rw [apply, hread]
  simp only [hroot]

/-- Overrides change the bounds of the references to their elements and nothing else, and what is told
is which of them found their element. Applied again to the schema with overrides, if it is read as it
was written, they change nothing and the same is told. -/
theorem apply_exact {source : Bytes} {d : Document} (hread : Faithful.read? source = some d)
    (hos : Writable os) : ∃ root r,
      node os d.root = .ok root ∧ Applied os d.root root ∧ Tells os d.root r ∧
        apply source os = .ok (({ d with root } : Document).bytes, r) ∧
        (({ d with root } : Document).ReadsBack →
          apply ({ d with root } : Document).bytes os =
            .ok (({ d with root } : Document).bytes, r)) := by
  obtain ⟨root, hroot, happlied⟩ := exists_applied hos d.root
  refine ⟨root, _, hroot, happlied, tells_report os d.root, apply_eq_of_node hread hroot, ?_⟩
  rintro ⟨d', hread', hsame⟩
  have hagain := apply_eq_of_node hread' (happlied.again hos hsame.root)
  have hbytes : d'.bytes = ({ d with root } : Document).bytes := hsame.bytes_eq
  -- references are neither added nor lost, so that the same is told
  have hreport : report os d'.root = report os d.root := by
    have hreferences : references d'.root = references d.root := by
      rw [references_eq d'.root, heads_eq_of_joined hsame.root, ← references_eq,
        happlied.references_eq]
    rw [report, report, hreferences]
  rw [hagain, hbytes, hreport]

/-- A schema that refers to an element twice, at different depths, with a remark. -/
def invoiceSchema : Bytes := bytesOf
  ("<xs:schema xmlns:xs=\"http://www.w3.org/2001/XMLSchema\"><!-- lines -->" ++
    "<xs:element ref=\"Line\" minOccurs=\"0\"/><xs:sequence><xs:element ref=\"Line\"/>a &amp; b" ++
    "<xs:element ref=\"Note\"/></xs:sequence></xs:schema>")

/-- Two overrides for one element, of which the last one leaves the minimum out, and one for an element
that the schema does not refer to. -/
def lineTwice : List Override :=
  [{ element := "Line", minOccurs := some "1", maxOccurs := some "9" },
    { element := "Tax", minOccurs := some "1" }, { element := "Line", maxOccurs := some "5" }]

theorem apply_exact_of_invoice : ∃ d root r, Faithful.read? invoiceSchema = some d ∧
    Writable lineTwice ∧ Applied lineTwice d.root root ∧ Tells lineTwice d.root r ∧
      apply invoiceSchema lineTwice = .ok (({ d with root } : Document).bytes, r) ∧
      apply ({ d with root } : Document).bytes lineTwice =
        .ok (({ d with root } : Document).bytes, r) := by
  have hback : (Faithful.read? invoiceSchema).any fun d =>
      (node lineTwice d.root).toOption.any fun root => ({ d with root } : Document).ReadsBack := by
    decide +kernel
  have hos : Writable lineTwice := by
    unfold Writable
    decide +kernel
  obtain ⟨d, hread, hback⟩ := (Option.any_eq_true _ _).mp hback
  obtain ⟨root, r, hroot, happlied, htells, happly, hagain⟩ := apply_exact hread hos
  rw [hroot] at hback
  exact ⟨d, root, r, hread, hos, happlied, htells, happly, hagain (of_decide_eq_true hback)⟩

end Overridden

end Conformity
