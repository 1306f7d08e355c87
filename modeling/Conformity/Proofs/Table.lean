import Conformity.Proofs.Once
import Conformity.Table

/-!
# Looking names up in tables

What a table says of a name after one of its names was changed (`Table.get?_alter`), and what a table
made of entries says of it: the value of its last entry (`Table.get?_ofEntries`).
-/

namespace Conformity.Table

variable {α β : Type}

@[simp] theorem get?_nil (name : String) : get? ([] : Table α) name = none := rfl

theorem get?_cons (e : String × α) (t : Table α) (name : String) :
    get? (e :: t) name = if e.1 = name then some e.2 else get? t name := by
  obtain ⟨n, v⟩ := e
  by_cases h : n = name
  · simp [get?, h]
  · simp [get?, List.lookup_cons, h, beq_eq_false_iff_ne.mpr (Ne.symm h)]

theorem get?_append (s t : Table α) (name : String) :
    get? (s ++ t) name = (s.get? name).or (t.get? name) := List.lookup_append

@[simp] theorem names_cons (e : String × α) (t : Table α) : names (e :: t) = e.1 :: names t := rfl

theorem has_iff_mem_names {t : Table α} {name : String} : t.has name ↔ name ∈ t.names := by
  induction t with
  | nil => simp [has, names]
  | cons e t ih =>
      rw [has, get?_cons, names_cons, List.mem_cons, ← ih]
      by_cases h : e.1 = name
      · simp [h]
      · simp [h, Ne.symm h, has]

theorem get?_eq_none_iff {t : Table α} {name : String} : t.get? name = none ↔ name ∉ t.names := by
  rw [← has_iff_mem_names, has]
  simp

theorem mem_of_get?_eq_some {t : Table α} {name : String} {v : α} (h : t.get? name = some v) :
    (name, v) ∈ t := by
  induction t with
  | nil => simp at h
  | cons e t ih =>
      rw [get?_cons] at h
      split at h
      · next heq =>
        cases h
        exact List.mem_cons.mpr (.inl (by rw [← heq]))
      · exact List.mem_cons_of_mem _ (ih h)

theorem get?_of_mem {t : Table α} (h : t.names.Nodup) {e : String × α} (he : e ∈ t) :
    t.get? e.1 = some e.2 := by
  induction t with
  | nil => cases he
  | cons e' t ih =>
      rw [names_cons, List.nodup_cons] at h
      rw [get?_cons]
      rcases List.mem_cons.mp he with rfl | he
      · rw [if_pos rfl]
      · rw [if_neg, ih h.2 he]
        rintro heq
        exact h.1 (heq ▸ List.mem_map_of_mem he)

/-- A table is told by its names in order and by their values. -/
theorem eq_of_get?_eq {s t : Table α} (hs : s.names.Nodup) (hnames : s.names = t.names)
    (h : ∀ name, s.get? name = t.get? name) : s = t := by
  induction s generalizing t with
  | nil => exact (List.map_eq_nil_iff.mp hnames.symm).symm
  | cons e s ih =>
      obtain ⟨e', t, rfl⟩ : ∃ e' t', t = e' :: t' := by
        cases t with
        | nil => cases hnames
        | cons e' t => exact ⟨e', t, rfl⟩
      simp only [names_cons, List.cons.injEq] at hnames
      obtain ⟨hname, hrest⟩ := hnames
      rw [names_cons, List.nodup_cons] at hs
      have hvalue : e.2 = e'.2 := by simpa [get?_cons, hname] using h e.1
      have hothers : ∀ name, get? s name = get? t name := by
        intro name
        by_cases hn : e.1 = name
        · -- the name of the first entry is no other one's
          rw [get?_eq_none_iff.mpr (hn ▸ hs.1), get?_eq_none_iff.mpr (hn ▸ hrest ▸ hs.1)]
        · simpa [get?_cons, hn, ← hname] using h name
      rw [ih hs.2 hrest hothers, Prod.ext hname hvalue]

/-- A table of lists is told by its names in order and by their members. -/
theorem eq_of_getD_eq {s t : Table (List α)} (hs : s.names.Nodup) (hnames : s.names = t.names)
    (h : ∀ name, (s.get? name).getD [] = (t.get? name).getD []) : s = t := by
  refine eq_of_get?_eq hs hnames fun name => ?_
  have hsome : (s.get? name).isSome = (t.get? name).isSome := by
    rw [Bool.eq_iff_iff]
    show s.has name ↔ t.has name
    rw [has_iff_mem_names, has_iff_mem_names, hnames]
  have hlist := h name
  cases hx : s.get? name <;> cases hy : t.get? name <;> simp_all

/-! ## Tables of found values -/

theorem names_filterMap (names : List String) (f : String → Option α) :
    Table.names (names.filterMap fun n => (f n).map (n, ·)) = names.filter fun n => (f n).isSome := by
  induction names with
  | nil => rfl
  | cons n names ih => cases h : f n <;> simp [h, ih]

theorem mem_filterMap {names : List String} {f : String → Option α} {name : String} {v : α} :
    (name, v) ∈ names.filterMap (fun n => (f n).map (n, ·)) ↔ name ∈ names ∧ f name = some v := by
  simp only [List.mem_filterMap, Option.map_eq_some_iff, Prod.mk.injEq]
  constructor
  · rintro ⟨n, hn, w, hw, rfl, rfl⟩
    exact ⟨hn, hw⟩
  · rintro ⟨hn, hv⟩
    exact ⟨name, hn, v, hv, rfl, rfl⟩

theorem get?_filterMap (names : List String) (f : String → Option α) (name : String) :
    get? (names.filterMap fun n => (f n).map (n, ·)) name = if name ∈ names then f name else none := by
  induction names with
  | nil => simp
  | cons n names ih =>
      rw [List.filterMap_cons]
      by_cases hn : n = name
      · subst hn
        cases hf : f n <;> simp_all [get?_cons]
      · cases hf : f n <;> simp_all [get?_cons, Ne.symm hn]

theorem get?_map (t : Table α) (f : α → β) (name : String) :
    get? (t.map fun e => (e.1, f e.2)) name = (t.get? name).map f := by
  induction t with
  | nil => rfl
  | cons e t ih =>
      rw [List.map_cons, get?_cons, get?_cons, ih]
      split <;> rfl

/-! ## Changing a name -/

theorem get?_alter (t : Table α) (name other : String) (f : Option α → α) :
    get? (alter name f t) other = if name = other then some (f (t.get? name)) else t.get? other := by
  induction t with
  | nil => simp [alter, get?_cons]
  | cons e t ih =>
      unfold alter
      by_cases he : e.1 = name
      · by_cases ho : name = other <;> simp [get?_cons, he, ho]
      · by_cases ho : name = other
        · subst ho
          simp [get?_cons, he, ih]
        · simp [get?_cons, he, ih, ho]

@[simp] theorem get?_set (t : Table α) (name other : String) (v : α) :
    get? (set name v t) other = if name = other then some v else t.get? other :=
  get?_alter t name other fun _ => v

theorem names_alter (t : Table α) (name : String) (f : Option α → α) :
    names (alter name f t) = if name ∈ t.names then t.names else t.names ++ [name] := by
  induction t with
  | nil => rfl
  | cons e t ih =>
      unfold alter
      by_cases he : e.1 = name
      · simp [he]
      · by_cases ht : name ∈ names t <;> simp [he, ih, ht, Ne.symm he]

/-- Changing names keeps every name in one place. -/
theorem nodup_names_alter {t : Table α} (h : t.names.Nodup) (name : String) (f : Option α → α) :
    (names (alter name f t)).Nodup := by
  rw [names_alter]
  split
  · exact h
  · next hname =>
    rw [← List.concat_eq_append]
    exact h.concat hname

theorem nodup_names_foldl_alter (es : List β) (name : β → String) (f : β → Option α → α)
    {t : Table α} (h : t.names.Nodup) :
    (names (es.foldl (fun t e => alter (name e) (f e) t) t)).Nodup := by
  induction es generalizing t with
  | nil => exact h
  | cons e es ih => exact ih (nodup_names_alter h (name e) (f e))

/-- A table that is built name by name has the names in the order in which they first came. -/
theorem names_foldl_alter (es : List β) (name : β → String) (f : β → Option α → α) :
    names (es.foldl (fun t e => alter (name e) (f e) t) []) = (es.map name).eraseDups := by
  induction es using List.reverseRecOn with
  | nil => rfl
  | append_singleton es e ih =>
      rw [List.foldl_append, List.map_append, List.foldl_cons, List.foldl_nil, names_alter, ih]
      by_cases h : name e ∈ es.map name
      · rw [if_pos (List.mem_eraseDups.mpr h), List.map_singleton, eraseDups_concat_of_mem h]
      · rw [if_neg (by simpa using h), List.map_singleton, eraseDups_concat_of_not_mem h]

/-- Lists that are worked into the lists of a table, name by name. -/
theorem getD_get?_foldl_alter {t : Table (List α)} (ht : t.names.Nodup) (f : List α → List α → List α)
    (hnil : ∀ xs, f xs [] = xs) (acc : Table (List α)) (name : String) :
    ((t.foldl (fun merged e => merged.alter e.1 fun xs => f (xs.getD []) e.2) acc).get? name).getD [] =
      f ((acc.get? name).getD []) ((t.get? name).getD []) := by
  induction t generalizing acc with
  | nil => simp [hnil]
  | cons e t ih =>
      rw [names_cons, List.nodup_cons] at ht
      obtain ⟨hfirst, hrest⟩ := ht
      rw [List.foldl_cons, ih hrest, get?_alter, get?_cons]
      by_cases he : e.1 = name
      · have hnone : get? t name = none := get?_eq_none_iff.mpr (he ▸ hfirst)
        simp [he, hnone, hnil]
      · simp [he]

/-- Lists that are added to the lists of a table stand behind them, name by name. -/
theorem getD_get?_foldl_append {t : Table (List α)} (ht : t.names.Nodup) (acc : Table (List α))
    (name : String) :
    ((t.foldl (fun merged e => merged.alter e.1 fun xs => xs.getD [] ++ e.2) acc).get? name).getD [] =
      (acc.get? name).getD [] ++ (t.get? name).getD [] :=
  getD_get?_foldl_alter ht (· ++ ·) List.append_nil acc name

/-! ## Tables of entries -/

/-- Of several entries for a name the last one counts. -/
theorem get?_ofEntries (es : List (String × α)) (name : String) :
    (ofEntries es).get? name = get? es.reverse name := by
  unfold ofEntries
  induction es using List.reverseRecOn with
  | nil => rfl
  | append_singleton es e ih =>
      rw [List.foldl_append, List.reverse_append]
      simp [get?_cons, ih]

theorem has_ofEntries {es : List (String × α)} {name : String} :
    (ofEntries es).has name ↔ ∃ e ∈ es, e.1 = name := by
  have hreverse : (ofEntries es).has name = has es.reverse name := congrArg _ (get?_ofEntries es name)
  rw [hreverse, has_iff_mem_names]
  simp [names]

theorem not_has_erase (t : Table α) (name : String) : ¬ (t.erase name).has name := by
  rw [has_iff_mem_names]
  simp [names, erase]

theorem erase_of_not_has {t : Table α} {name : String} (h : ¬ t.has name) : t.erase name = t := by
  rw [has_iff_mem_names] at h
  refine List.filter_eq_self.mpr fun e he => ?_
  rw [bne_iff_ne]
  rintro rfl
  exact h (List.mem_map_of_mem he)

theorem erase_set (t : Table α) (name other : String) (v : α) :
    erase name (set other v t) = if other = name then erase name t else set other v (erase name t) := by
  unfold erase set
  induction t with
  | nil => by_cases h : other = name <;> simp [alter, h]
  | cons e t ih =>
      rw [alter]
      by_cases he : e.1 = other
      · by_cases h : other = name <;> simp [alter, he, h]
      · by_cases hname : e.1 = name
        · have hne : name ≠ other := fun heq => he (hname.trans heq)
          simpa [hname, hne, hne.symm] using ih
        · by_cases h : other = name <;> simp_all [alter]

/-- Removing a name forgets its entries. -/
theorem erase_ofEntries (es : List (String × α)) (name : String) :
    (ofEntries es).erase name = ofEntries (es.filter fun e => e.1 != name) := by
  unfold ofEntries
  induction es using List.reverseRecOn with
  | nil => rfl
  | append_singleton es e ih =>
      rw [List.foldl_append, List.filter_append, List.foldl_append, ← ih]
      by_cases h : e.1 = name <;> simp [erase_set, h]

end Conformity.Table
