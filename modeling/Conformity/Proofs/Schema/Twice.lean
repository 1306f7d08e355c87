import Conformity.Proofs.Markup.Attribute
import Conformity.Proofs.Override.Merge

/-!
# Overrides one after another

A schema may be given the inherited overrides first, and then the own ones. At every reference to an
element this sets the own bounds, and the inherited ones where no own ones are set
(`Overridden.withBounds_withBounds`). The merged overrides do the same exactly if no own override
leaves anything of an inherited one (`Overridden.alike_merged_iff`).
-/

namespace Conformity

open Markup

/-! ## Setting bounds -/

/-- Trees that differ in the order of attributes only. -/
inductive Markup.Node.Alike : Node → Node → Prop
  | refl (n : Node) : Alike n n
  | element {name : Name} {declared : List SpaceDeclaration} {as as' : List Attribute}
      {children children' : List Node} : as.Perm as' → List.Forall₂ Alike children children' →
        Alike (.element name declared as children) (.element name declared as' children')

namespace Overridden

variable {k k' : String} {x y z : Option String}

theorem withBound_withBound (as : List Attribute) :
    withBound k x (withBound k y as) = withBound k (x.or y) as := by
  cases x with
  | none => rfl
  | some v =>
      cases y with
      | none => rfl
      | some w => exact Node.setAttribute_setAttribute as

/-- A bound that is set twice may be set once, whatever is set in between. -/
theorem withBound_between (h : k ≠ k') (as : List Attribute) :
    (withBound k x (withBound k' y (withBound k z as))).Perm
      (withBound k (x.or z) (withBound k' y as)) := by
  cases y with
  | none =>
      show (withBound k x (withBound k z as)).Perm (withBound k (x.or z) as)
      rw [withBound_withBound]
  | some w =>
      cases z with
      | none =>
          rw [Option.or_none]
          exact .refl _
      | some u =>
          cases x with
          | none => exact Node.setAttribute_comm h.symm as
          | some v => exact Node.setAttribute_between h as

/-- Own bounds, and inherited ones where no own ones are set. -/
def combined (own inherited : Option String × Option String) : Option String × Option String :=
  (own.1.or inherited.1, own.2.or inherited.2)

/-- To set inherited bounds and then own ones is to set both at once. -/
theorem withBounds_withBounds (own inherited : Option String × Option String) (as : List Attribute) :
    (withBounds own (withBounds inherited as)).Perm (withBounds (combined own inherited) as) := by
  have hne : "maxOccurs" ≠ "minOccurs" := by decide
  -- both maxima come together, whatever minimum is set in between, and then both minima
  have hmax := withBound_between (x := own.2) (y := own.1) (z := inherited.2) hne
    (withBound "minOccurs" inherited.1 as)
  rw [withBound_withBound] at hmax
  exact hmax

/-! ## Setting bounds throughout a schema -/

theorem reference?_withBounds (b : Option String × Option String) (name : Name)
    (as : List Attribute) : reference? name (withBounds b as) = reference? name as := by
  have href : ∀ {k : String} {x : Option String} {as : List Attribute}, k ≠ "ref" →
      Node.attribute? "ref" (withBound k x as) = Node.attribute? "ref" as := by
    intro k x as hk
    cases x with
    | none => rfl
    | some v => exact Node.attribute?_setAttribute hk as
  unfold reference? withBounds
  rw [href (by decide), href (by decide)]

/-- What inherited and own overrides do to an element together; nothing if some cannot be written. -/
def effectOnBoth (inherited own : List Override) (element : String) :
    Option (Option String × Option String) :=
  (effectOn inherited element).bind fun b => (effectOn own element).map fun b' => combined b' b

variable {merged inherited own : List Override}

/-- Overrides that do at once what others do one after another, set the same attributes. -/
theorem attributes_alike (h : ∀ element, effectOn merged element = effectOnBoth inherited own element)
    (name : Name) (as : List Attribute) :
    Option.Rel List.Perm (overriddenAttributes merged name as).toOption
      ((overriddenAttributes inherited name as).toOption.bind fun as' =>
        (overriddenAttributes own name as').toOption) := by
  simp only [overriddenAttributes_toOption]
  cases href : reference? name as with
  | none =>
      simp only [Option.bind_some, href]
      exact .some (.refl as)
  | some element =>
      simp only [h, effectOnBoth]
      cases effectOn inherited element with
      | none => exact .none
      | some b =>
          simp only [Option.bind_some, Option.map_some, reference?_withBounds, href]
          cases effectOn own element with
          | none => exact .none
          | some b' => exact .some (withBounds_withBounds b' b as).symm

theorem node_element_toOption (os : List Override) (name : Name) (declared : List SpaceDeclaration)
    (as : List Attribute) (children : List Node) :
    (node os (.element name declared as children)).toOption =
      (overriddenAttributes os name as).toOption.bind fun as' =>
        (nodes os children).toOption.map (.element name declared as') := by
  rw [node, toOption_bind]
  congr
  funext as'
  rw [toOption_bind]
  cases nodes os children <;> rfl

theorem nodes_cons_toOption (os : List Override) (n : Node) (ns : List Node) :
    (nodes os (n :: ns)).toOption =
      (node os n).toOption.bind fun n' => (nodes os ns).toOption.map (List.cons n') := by
  rw [nodes, toOption_bind]
  congr
  funext n'
  rw [toOption_bind]
  cases nodes os ns <;> rfl

/-- What two passes make of two parts is alike to what one pass makes of them, if it is for each part. -/
theorem rel_of_parts {α β γ : Type} {R : α → α → Prop} {S : β → β → Prop} {T : γ → γ → Prop}
    {a a' : Option α} {b b' : Option β} {f : α → Option α} {g : β → Option β} {again : γ → Option γ}
    {make : α → β → γ} (ha : Option.Rel R a (a'.bind f)) (hb : Option.Rel S b (b'.bind g))
    (hagain : ∀ x y, again (make x y) = (f x).bind fun x' => (g y).map (make x'))
    (hmake : ∀ {x x' y y'}, R x x' → S y y' → T (make x y) (make x' y')) :
    Option.Rel T (a.bind fun x => b.map (make x)) ((a'.bind fun x => b'.map (make x)).bind again) := by
  cases a' with
  | none =>
      cases ha
      exact .none
  | some x =>
      cases b' with
      | none =>
          cases hb
          cases a <;> exact .none
      | some y =>
          simp only [Option.bind_some, Option.map_some, hagain] at ha hb ⊢
          generalize f x = x' at ha ⊢
          generalize g y = y' at hb ⊢
          cases ha with
          | none => exact .none
          | some hx =>
              cases hb with
              | none => exact .none
              | some hy => exact .some (hmake hx hy)

mutual

/-- Overrides that do at once what others do one after another, make the same of every schema. -/
theorem node_alike (h : ∀ element, effectOn merged element = effectOnBoth inherited own element) :
    ∀ n, Option.Rel Node.Alike (node merged n).toOption
      ((node inherited n).toOption.bind fun n' => (node own n').toOption)
  | .element name declared attributes children => by
      have has := attributes_alike h name attributes
      have hchildren := nodes_alike h children
      rw [node_element_toOption, node_element_toOption]
      exact rel_of_parts has hchildren (node_element_toOption own name declared) .element
  | .text _ => .some (.refl _)
  | .entity _ => .some (.refl _)
  | .comment _ => .some (.refl _)
  | .instruction _ _ => .some (.refl _)

theorem nodes_alike (h : ∀ element, effectOn merged element = effectOnBoth inherited own element) :
    ∀ ns, Option.Rel (List.Forall₂ Node.Alike) (nodes merged ns).toOption
      ((nodes inherited ns).toOption.bind fun ns' => (nodes own ns').toOption)
  | [] => .some .nil
  | n :: ns => by
      have hn := node_alike h n
      have hns := nodes_alike h ns
      rw [nodes_cons_toOption, nodes_cons_toOption]
      exact rel_of_parts hn hns (nodes_cons_toOption own) .cons

end

/-! ## When merged overrides do the same -/

/-- What overrides make of a reference to an element. -/
theorem modified_reference {name : Name} {declared : List SpaceDeclaration} {as : List Attribute}
    {element : String} (href : reference? name as = some element) (os : List Override) :
    modified os (.element name declared as []) =
      (effectOn os element).map fun b => .element name declared (withBounds b as) [] := by
  rw [modified, node_element_toOption, overriddenAttributes_toOption, href]
  dsimp only
  cases effectOn os element <;> rfl

theorem reference?_probe (element : String) : reference? ⟨some schemaSpace, none, "element"⟩
    [{ name := { base := "ref" }, value := element }] = some element := by
  simp [reference?, Name.isIn, Node.attribute?, Name.isPlain]

theorem modified_twice_probe (inherited own : List Override) (element : String) :
    (modified inherited (probe element)).bind (modified own) =
      (effectOn inherited element).bind fun b => (effectOn own element).map fun b' =>
        .element ⟨some schemaSpace, none, "element"⟩ []
          (withBounds b' (withBounds b [{ name := { base := "ref" }, value := element }])) [] := by
  rw [modified_probe]
  cases effectOn inherited element with
  | none => rfl
  | some b =>
      exact modified_reference ((reference?_withBounds b _ _).trans (reference?_probe element)) own

theorem mem_withBounds {b : Option String × Option String} {element v : String} :
    ({ name := { base := "minOccurs" }, value := v } ∈
        withBounds b [{ name := { base := "ref" }, value := element }] ↔ b.1 = some v) ∧
      ({ name := { base := "maxOccurs" }, value := v } ∈
        withBounds b [{ name := { base := "ref" }, value := element }] ↔ b.2 = some v) := by
  obtain ⟨min, max⟩ := b
  cases min <;> cases max <;>
    simp [withBounds, withBound, Node.setAttribute, Name.isPlain, eq_comm]

/-- The bounds of a reference can be read off, in whatever order they stand. -/
theorem withBounds_perm {b b' : Option String × Option String} {element : String}
    (h : (withBounds b [{ name := { base := "ref" }, value := element }]).Perm
      (withBounds b' [{ name := { base := "ref" }, value := element }])) : b = b' := by
  refine Prod.ext ?_ ?_
  · apply Option.ext
    intro v
    rw [← mem_withBounds.1, h.mem_iff, mem_withBounds.1]
  · apply Option.ext
    intro v
    rw [← mem_withBounds.2, h.mem_iff, mem_withBounds.2]

theorem perm_of_alike {name : Name} {declared : List SpaceDeclaration} {as as' : List Attribute}
    (h : Node.Alike (.element name declared as []) (.element name declared as' [])) : as.Perm as' := by
  cases h with
  | refl => exact .refl as
  | element hperm _ => exact hperm

/-- What overrides do to an element shows at a reference to it. -/
theorem effectOn_of_alike {element : String}
    (h : Option.Rel Node.Alike (modified merged (probe element))
      ((modified inherited (probe element)).bind (modified own))) :
    effectOn merged element = effectOnBoth inherited own element := by
  rw [modified_probe, modified_twice_probe] at h
  unfold effectOnBoth
  cases hmerged : effectOn merged element with
  | none =>
      cases hinherited : effectOn inherited element with
      | none => rfl
      | some b =>
          cases hown : effectOn own element with
          | none => rfl
          | some b' =>
              rw [hmerged, hinherited, hown] at h
              cases h
  | some c =>
      cases hinherited : effectOn inherited element with
      | none =>
          rw [hmerged, hinherited] at h
          cases h
      | some b =>
          cases hown : effectOn own element with
          | none =>
              rw [hmerged, hinherited, hown] at h
              cases h
          | some b' =>
              rw [hmerged, hinherited, hown] at h
              cases h with
              | some halike =>
                  -- the order of the attributes does not hide the bounds
                  have hperm := (perm_of_alike halike).trans (withBounds_withBounds b' b _)
                  rw [withBounds_perm hperm]
                  rfl

/-- An override leaves nothing of an inherited one: it sets all bounds that the other one sets. Or it
cannot be written, so that there is no schema anyway. -/
def Covers (own inherited : Override) : Prop :=
  effect own = none ∨ effect inherited ≠ none ∧
    (own.minOccurs = none → inherited.minOccurs = none) ∧
    (own.maxOccurs = none → inherited.maxOccurs = none)

theorem effect_eq_some {o : Override} {b : Option String × Option String} (h : effect o = some b) :
    b = (o.minOccurs, o.maxOccurs) := by
  unfold effect at h
  split at h
  · exact (Option.some.inj h).symm
  · cases h

theorem eq_or_iff {α : Type} {x y : Option α} : x = x.or y ↔ (x = none → y = none) := by
  cases x <;> simp [eq_comm]

theorem effect_eq_iff {o i : Override} :
    effect o = (effect i).bind (fun b => (effect o).map fun b' => combined b' b) ↔ Covers o i := by
  unfold Covers
  cases ho : effect o with
  | none => simp
  | some b' =>
      cases hi : effect i with
      | none => simp
      | some b =>
          rw [effect_eq_some ho, effect_eq_some hi]
          simp only [combined, Option.bind_some, Option.map_some, Option.some.injEq, Prod.mk.injEq,
            eq_or_iff]
          simp

theorem effectOn_merged_iff {element : String}
    (h : last? merged element = (last? own element).or (last? inherited element)) :
    effectOn merged element = effectOnBoth inherited own element ↔
      ∀ o i, last? own element = some o → last? inherited element = some i → Covers o i := by
  unfold effectOnBoth effectOn
  rw [h]
  cases last? own element with
  | none =>
      cases last? inherited element with
      | none => simp [combined]
      | some i => cases hi : effect i <;> simp [hi, combined]
  | some o =>
      cases last? inherited element with
      | none => cases ho : effect o <;> simp [ho, combined]
      | some i => simpa using effect_eq_iff

/-- Own overrides, each in place of the inherited one for its element, make the same of every schema as
the inherited ones followed by the own ones, exactly if they leave nothing of those that they replace. -/
theorem alike_merged_iff
    (h : ∀ element, last? merged element = (last? own element).or (last? inherited element)) :
    (∀ root, Option.Rel Node.Alike (modified merged root)
      ((modified inherited root).bind (modified own))) ↔
    ∀ element o i, last? own element = some o → last? inherited element = some i → Covers o i := by
  constructor
  · intro hroots element
    exact (effectOn_merged_iff (h element)).mp (effectOn_of_alike (hroots (probe element)))
  · intro hcovers root
    exact node_alike (fun element => (effectOn_merged_iff (h element)).mpr (hcovers element)) root

end Overridden

end Conformity
