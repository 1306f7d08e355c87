import Conformity.Markup.Edit
import Conformity.Markup.Faithful

/-!
# Names in their scope

In a document that was read, every element in a namespace has a qualifier that is declared for this
namespace at the element itself or around it (`Node.Resolved`, `Faithful.resolved_of_read?`). So an
element that gets a new name in the same namespace needs no new declaration (`Node.exists_rename_eq`).
-/

namespace Conformity.Markup

variable {α β : Type}

/-! ## Steps of reading -/

namespace Faithful

/-- Whatever a step of reading comes to, has a property. -/
def Gives (x : Reading α) (P : α → Prop) : Prop :=
  ∀ notices a notices', x notices = some (a, notices') → P a

variable {x : Reading α} {P Q : α → Prop} {R : β → Prop} {f : α → Reading β} {a : α}

theorem Gives.bind (hx : Gives x P) (hf : ∀ a, P a → Gives (f a) R) : Gives (x >>= f) R := by
  intro notices b notices' h
  obtain ⟨⟨a, between⟩, ha, hb⟩ := Option.bind_eq_some_iff.mp h
  exact hf a (hx _ _ _ ha) _ _ _ hb

/-- Nothing need be known about the first step. -/
theorem Gives.after (hf : ∀ a, Gives (f a) R) : Gives (x >>= f) R := by
  have hx : Gives x fun _ => True := fun _ _ _ _ => trivial
  exact hx.bind fun a _ => hf a

theorem Gives.and (hP : Gives x P) (hQ : Gives x Q) : Gives x fun a => P a ∧ Q a :=
  fun _ _ _ h => ⟨hP _ _ _ h, hQ _ _ _ h⟩

theorem gives_pure (h : P a) : Gives (pure a : Reading α) P := by
  intro notices b notices' heq
  cases heq
  exact h

theorem gives_malformed : Gives (malformed : Reading α) P := fun _ _ _ h => nomatch h

end Faithful

/-! ## Names -/

/-- The names of elements are resolved where they stand. -/
inductive Node.Resolved : Scope → Node → Prop
  | element {scope : Scope} {name : Name} {declared : List SpaceDeclaration} {as : List Attribute}
      {children : List Node} :
      (∀ space, name.space = some space →
        Scope.find? (declared.reverse ++ scope) name.qualifier = some space) →
      (∀ c ∈ children, Resolved (declared.reverse ++ scope) c) →
        Resolved scope (.element name declared as children)
  | text (scope : Scope) (content : String) : Resolved scope (.text content)
  | entity (scope : Scope) (name : String) : Resolved scope (.entity name)
  | comment (scope : Scope) (content : String) : Resolved scope (.comment content)
  | instruction (scope : Scope) (target : String) (data : Option String) :
      Resolved scope (.instruction target data)

/-- A node is an element. -/
def Node.IsElement (n : Node) : Prop :=
  ∃ name declared as children, n = .element name declared as children

namespace Faithful

variable {rules : Rules} {expand : Scope → Nat → String → Reading Unit}

/-- The start of an element has a name that is resolved in its scope. -/
theorem gives_tag (rules : Rules) (scope : Scope) (name : String) (written : List WrittenAttribute) :
    Gives (tag rules scope name written) fun t => ∀ space, t.name.space = some space →
      Scope.find? (t.declared.reverse ++ scope) t.name.qualifier = some space := by
  unfold tag
  refine Gives.after fun q => Gives.after fun read => Gives.after fun attributes =>
    Gives.after fun _ => ?_
  split
  · exact Gives.after fun _ => gives_pure fun space h => nomatch h
  · exact gives_pure fun space h => h

mutual

theorem gives_node (scope : Scope) (depth : Nat) :
    ∀ w : Written, Gives (node rules expand scope depth w) (Node.Resolved scope)
  | .element name attributes children => by
      unfold node
      split
      · refine (gives_tag rules scope name attributes).bind fun t hname => ?_
        have hnodes := gives_nodes (t.declared.reverse ++ scope) (depth + 1) children
        exact hnodes.bind fun inner hinner => gives_pure (.element hname hinner)
      · exact gives_malformed
  | .text s => gives_pure (.text scope s)
  | .entity name => Gives.after fun _ => gives_pure (.entity scope name)
  | .comment s => gives_pure (.comment scope s)
  | .instruction target data => Gives.after fun _ => gives_pure (.instruction scope target data)

theorem gives_nodes (scope : Scope) (depth : Nat) : ∀ ws : List Written,
    Gives (nodes rules expand scope depth ws) fun ns => ∀ n ∈ ns, Node.Resolved scope n
  | [] => gives_pure (List.forall_mem_nil _)
  | w :: ws => by
      unfold nodes
      refine (gives_node scope depth w).bind fun n hn => ?_
      refine (gives_nodes scope depth ws).bind fun ns hns => ?_
      exact gives_pure (List.forall_mem_cons.mpr ⟨hn, hns⟩)

end

/-- An element is made of an element. -/
theorem gives_element (scope : Scope) (depth : Nat) (name : String) (as : List WrittenAttribute)
    (children : List Written) :
    Gives (node rules expand scope depth (.element name as children)) Node.IsElement := by
  unfold node
  split
  · exact Gives.after fun t => Gives.after fun inner => gives_pure ⟨_, _, _, _, rfl⟩
  · exact gives_malformed

end Faithful

/-! ## Documents -/

/-- What content ends with is an element that is closed. -/
theorem exists_closed_of_content {edition : NameEdition} {fuel : Nat} {top : OpenElement}
    {below : List OpenElement} {cs rest : List Char} {w : Written}
    (h : content edition fuel top below cs = some (w, rest)) : ∃ e : OpenElement, w = e.closed := by
  fun_induction content edition fuel top below cs
  -- the text ends, or the lowest element is closed
  case case2 | case8 =>
    cases h
    exact ⟨_, rfl⟩
  -- a text, unless it holds what must not stand in a text
  case case20 | case21 => grind
  -- elsewhere nothing can be read, or content goes on
  all_goals first
    | cases h
    | (next ih => exact ih h)

theorem Written.exists_closed_of_element? {edition : NameEdition} {cs rest : List Char} {w : Written}
    (h : element? edition cs = some (w, rest)) : ∃ e : OpenElement, w = e.closed := by
  unfold element? at h
  split at h
  · next e _ _ =>
    cases h
    exact ⟨e, rfl⟩
  · exact exists_closed_of_content h
  · cases h

theorem Written.exists_closed_of_document? {edition : NameEdition} {cs : List Char}
    {w : WrittenDocument} (h : document? edition cs = some w) :
    ∃ e : OpenElement, w.root = e.closed := by
  unfold document? at h
  split at h
  · cases h
  · simp only [Option.bind_eq_bind, Option.bind_eq_some_iff] at h
    obtain ⟨_, _, _, _, _, _, ⟨root, _⟩, hroot, _, _, h⟩ := h
    split at h
    · cases h
      exact exists_closed_of_element? hroot
    · cases h

namespace Faithful

theorem gives_document {w : WrittenDocument} {e : OpenElement} (hroot : w.root = e.closed) :
    Gives (document w) fun d => d.root.IsElement ∧ d.root.Resolved [] := by
  unfold document
  dsimp only
  split
  · exact gives_malformed
  · refine Gives.after fun _ => Gives.after fun beforeType => Gives.after fun declared =>
      Gives.after fun beforeRoot => ?_
    rw [hroot]
    refine ((gives_element [] 0 _ _ _).and (gives_node [] 0 _)).bind fun root hroot => ?_
    exact Gives.after fun _ => gives_pure hroot

/-- A document that was read has an element for its root, and all names of elements are resolved. -/
theorem resolved_of_read? {bs : Bytes} {d : Document} (h : read? bs = some d) :
    d.root.IsElement ∧ d.root.Resolved [] := by
  unfold read? at h
  simp only [Option.bind_eq_bind, Option.bind_eq_some_iff] at h
  obtain ⟨cs, -, w, hw, ⟨d', notices⟩, hd, h⟩ := h
  obtain ⟨e, hroot⟩ := Written.exists_closed_of_document? hw
  split at h
  · cases h
    exact gives_document hroot _ _ _ hd
  · cases h

end Faithful

/-! ## New names -/

/-- A namespace that a qualifier stands for, and that is not declared anew further inside, is found. -/
theorem exists_qualifierAmong?_eq {around : List (List SpaceDeclaration)} {d : SpaceDeclaration}
    (h : (around.flatMap List.reverse).find? (·.qualifier == d.qualifier) = some d)
    {hidden : List (Option String)} (hd : d.qualifier ∉ hidden) :
    ∃ q, qualifierAmong? d.space hidden around = some q ∧ ⟨q, d.space⟩ ∈ around.flatten := by
  induction around generalizing hidden with
  | nil => cases h
  | cons ds outer ih =>
      unfold qualifierAmong?
      split
      · next d' hfound =>
        have hspace := List.find?_some hfound
        simp only [Bool.and_eq_true, beq_iff_eq] at hspace
        have hmem : d' ∈ ds := List.mem_of_find?_eq_some hfound
        refine ⟨d'.qualifier, rfl, ?_⟩
        rw [List.flatten_cons, ← hspace.1]
        exact List.mem_append_left _ hmem
      · next hnone =>
        rw [List.flatMap_cons, List.find?_append] at h
        -- the declaration is not one of the innermost ones, and none of these hides it
        cases hinner : ds.reverse.find? (·.qualifier == d.qualifier) with
        | some d' =>
            rw [hinner] at h
            cases h
            have hmem : d ∈ ds := List.mem_reverse.mp (List.mem_of_find?_eq_some hinner)
            simpa [hd] using List.find?_eq_none.mp hnone d hmem
        | none =>
            rw [hinner] at h
            have hfresh : d.qualifier ∉ ds.map (·.qualifier) ++ hidden := by
              rw [List.mem_append, List.mem_map]
              rintro (⟨d', hmem, hq⟩ | hmem)
              · exact List.find?_eq_none.mp hinner d' (List.mem_reverse.mpr hmem) (beq_iff_eq.mpr hq)
              · exact hd hmem
            obtain ⟨q, hq, hmem⟩ := ih h hfresh
            exact ⟨q, hq, List.mem_append_right _ hmem⟩

/-- For a namespace that a qualifier stands for, nothing has to be declared. -/
theorem exists_qualifierFor_eq {space : String} {q : Option String}
    {around : List (List SpaceDeclaration)}
    (h : Scope.find? (around.flatMap List.reverse) q = some space) (hspace : space ≠ xmlSpace) :
    ∃ q', qualifierFor space around = (q', []) ∧ ⟨q', space⟩ ∈ around.flatten := by
  unfold Scope.find? at h
  split at h
  · exact absurd (Option.some.inj h).symm hspace
  · split at h
    · next d hfound =>
      obtain rfl : d.qualifier = q := by simpa using List.find?_some hfound
      split at h
      · cases h
      · cases h
        obtain ⟨q', hq', hmem⟩ := exists_qualifierAmong?_eq hfound List.not_mem_nil
        refine ⟨q', ?_, hmem⟩
        rw [qualifierFor, hq']
    · cases h

/-- An element whose name is resolved gets a new name in its namespace and stays as it is otherwise. -/
theorem Node.exists_rename_eq {name : Name} {ds : List SpaceDeclaration} {as : List Attribute}
    {cs : List Node} {outer : List SpaceDeclaration} {space : String}
    (h : Node.Resolved outer.reverse (.element name ds as cs)) (hname : name.space = some space)
    (hspace : space ≠ xmlSpace) (base : String) :
    ∃ q, Node.rename space base [outer] (.element name ds as cs) =
      .element ⟨some space, q, base⟩ ds as cs ∧ ⟨q, space⟩ ∈ ds ++ outer := by
  cases h with
  | element hresolved _ =>
      have hfound : Scope.find? ([ds, outer].flatMap List.reverse) name.qualifier = some space := by
        simpa using hresolved space hname
      obtain ⟨q, hq, hmem⟩ := exists_qualifierFor_eq hfound hspace
      refine ⟨q, ?_, by simpa using hmem⟩
      simp only [Node.rename, hq, List.append_nil]

end Conformity.Markup
