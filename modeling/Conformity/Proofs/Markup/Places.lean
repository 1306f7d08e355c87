import Conformity.Proofs.Markup.Scope

/-!
# Places in a tree

A node of a tree stands at a place: the indices of the children on the way down to it. A place comes
before those below it, and before those of later siblings and below these; this is the order of words in
a dictionary, and it is the order in which elements begin in a document. The elements of a tree are
listed in this order, each once (`map_snd_placed`, `mem_placed_iff`, `pairwise_placed`).
-/

namespace Conformity.Markup.Node

/-- The nodes directly inside a node. -/
def children : Node → List Node
  | element _ _ _ children => children
  | _ => []

/-- The attributes of a node. -/
def attributes : Node → List Attribute
  | element _ _ attributes _ => attributes
  | _ => []

/-- The node at a place. -/
def at? (n : Node) : List Nat → Option Node
  | [] => some n
  | i :: place => n.children[i]?.bind (·.at? place)

mutual

/-- The elements of a node with their places. -/
def placed : Node → List (List Nat × Node)
  | element name declared as children =>
    ([], element name declared as children) :: placedFrom 0 children
  | _ => []

/-- The elements of several nodes with their places, the first of the nodes having the index `i`. -/
def placedFrom : Nat → List Node → List (List Nat × Node)
  | _, [] => []
  | i, n :: ns => (placed n).map (fun x => (i :: x.1, x.2)) ++ placedFrom (i + 1) ns

end

theorem placed_of_not_isElement {n : Node} (h : ¬ n.IsElement) : n.placed = [] := by
  cases n with
  | element name declared as children => exact absurd ⟨name, declared, as, children, rfl⟩ h
  | text | entity | comment | instruction => rw [placed]; nofun

theorem placedFrom_eq_flatMap (i : Nat) (ns : List Node) :
    placedFrom i ns =
      (ns.zipIdx i).flatMap fun c => c.1.placed.map fun x => (c.2 :: x.1, x.2) := by
  induction ns generalizing i with
  | nil => simp [placedFrom]
  | cons n ns ih => rw [placedFrom, ih (i + 1), List.zipIdx_cons, List.flatMap_cons]

mutual

theorem map_snd_placed : ∀ n : Node, n.placed.map Prod.snd = n.elements
  | element name declared as children => by
      rw [placed, elements, List.map_cons, map_snd_placedFrom]
  | text _ | entity _ | comment _ | instruction .. => by simp [placed, elements]

theorem map_snd_placedFrom (i : Nat) : ∀ ns : List Node,
    (placedFrom i ns).map Prod.snd = elementsOfAll ns
  | [] => by simp [placedFrom, elementsOfAll]
  | n :: ns => by
      rw [placedFrom, elementsOfAll, List.map_append, List.map_map, map_snd_placedFrom (i + 1) ns,
        ← map_snd_placed n]
      rfl

end

/-- Those of several nodes stand at a place in one of them. -/
theorem mem_placedFrom_iff {ns : List Node} {place : List Nat} {m : Node} :
    (place, m) ∈ placedFrom 0 ns ↔
      ∃ i rest c, place = i :: rest ∧ ns[i]? = some c ∧ (rest, m) ∈ c.placed := by
  rw [placedFrom_eq_flatMap, List.mem_flatMap]
  constructor
  · rintro ⟨⟨c, i⟩, hc, h⟩
    obtain ⟨⟨rest, m⟩, hm, heq⟩ := List.mem_map.mp h
    cases heq
    exact ⟨i, rest, c, rfl, List.mem_zipIdx_iff_getElem?.mp hc, hm⟩
  · rintro ⟨i, rest, c, rfl, hc, hm⟩
    exact ⟨(c, i), List.mem_zipIdx_iff_getElem?.mpr hc, List.mem_map_of_mem hm⟩

/-- The elements that are listed are those that stand somewhere, with the place where they stand. -/
theorem mem_placed_iff {n m : Node} {place : List Nat} :
    (place, m) ∈ n.placed ↔ n.at? place = some m ∧ m.IsElement := by
  induction place generalizing n with
  | nil =>
      cases n with
      | element name declared as children =>
          rw [placed, List.mem_cons, mem_placedFrom_iff, at?]
          constructor
          · rintro (heq | ⟨i, rest, c, hplace, -⟩)
            · cases heq
              exact ⟨rfl, name, declared, as, children, rfl⟩
            · cases hplace
          · rintro ⟨heq, -⟩
            cases heq
            exact .inl rfl
      | text | entity | comment | instruction =>
          rw [placed_of_not_isElement (by rintro ⟨_, _, _, _, ⟨⟩⟩)]
          refine iff_of_false List.not_mem_nil ?_
          rintro ⟨⟨⟩, _, _, _, _, ⟨⟩⟩
  | cons i place ih =>
      rw [at?, Option.bind_eq_some_iff]
      cases n with
      | element name declared as children =>
          rw [placed, List.mem_cons, mem_placedFrom_iff]
          constructor
          · rintro (heq | ⟨i, rest, c, ⟨⟩, hc, hm⟩)
            · cases heq
            · obtain ⟨hat, helement⟩ := ih.mp hm
              exact ⟨⟨c, hc, hat⟩, helement⟩
          · rintro ⟨⟨c, hc, hat⟩, helement⟩
            exact .inr ⟨i, place, c, rfl, hc, ih.mpr ⟨hat, helement⟩⟩
      | text | entity | comment | instruction =>
          rw [placed_of_not_isElement (by rintro ⟨_, _, _, _, ⟨⟩⟩)]
          refine iff_of_false List.not_mem_nil ?_
          rintro ⟨⟨c, ⟨⟩, -⟩, -⟩

mutual

/-- They are listed in the order of their places. -/
theorem pairwise_placed : ∀ n : Node, n.placed.Pairwise (·.1 < ·.1)
  | element name declared as children => by
      rw [placed, List.pairwise_cons]
      refine ⟨?_, pairwise_placedFrom 0 children⟩
      rintro ⟨place, m⟩ hm
      obtain ⟨i, rest, c, rfl, -⟩ := mem_placedFrom_iff.mp hm
      exact List.nil_lt_cons i rest
  | text _ | entity _ | comment _ | instruction .. => by simp [placed]

theorem pairwise_placedFrom (i : Nat) : ∀ ns : List Node, (placedFrom i ns).Pairwise (·.1 < ·.1)
  | [] => by simp [placedFrom]
  | n :: ns => by
      rw [placedFrom, List.pairwise_append, List.pairwise_map]
      refine ⟨(pairwise_placed n).imp fun h => List.cons_lt_cons_self.mpr h,
        pairwise_placedFrom (i + 1) ns, ?_⟩
      intro x hx y hy
      obtain ⟨x, -, rfl⟩ := List.mem_map.mp hx
      rw [placedFrom_eq_flatMap, List.mem_flatMap] at hy
      obtain ⟨⟨c, j⟩, hc, hy⟩ := hy
      obtain ⟨y, -, rfl⟩ := List.mem_map.mp hy
      -- the index of a later node is larger
      have hless : i < j := List.le_snd_of_mem_zipIdx hc
      exact List.cons_lt_cons_iff.mpr (.inl hless)

end

end Conformity.Markup.Node
