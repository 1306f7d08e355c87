import Conformity.Data.Value

/-!
# Values without labels

The label of a node tells where a document mentions it; it is lost when a document is written and
read again. A value is looked into as if it had no labels: fields, items, entries and texts of single
values are those of the bare value. A value without knots is not followed any further
(`Data.unroll_of_isKnotless`).
-/

namespace Conformity

namespace Scalar

/-- A scalar without its label. -/
def bare : Scalar → Scalar
  | day _ d => day 0 d
  | moment _ m => moment 0 m
  | s => s

@[simp] theorem plain_bare (s : Scalar) : s.bare.plain = s.plain := by cases s <;> rfl

@[simp] theorem sameKey_bare (s t : Scalar) : s.sameKey t.bare = s.sameKey t := by
  cases s <;> cases t <;> rfl

/-- Only a text is the same key as a text. -/
theorem sameKey_text_iff {name : String} {s : Scalar} : (text name).sameKey s ↔ s = text name := by
  cases s with
  | text t =>
      show (name == t) = true ↔ _
      rw [beq_iff_eq, text.injEq, eq_comm]
  | _ => simp [sameKey, whole?]

end Scalar

namespace Data

mutual

/-- A value without its labels. -/
def bare : Data → Data
  | scalar s => scalar s.bare
  | list _ xs => list 0 (bareAll xs)
  | map _ es => map 0 (bareEntries es)
  | set _ ms => set 0 (ms.map Scalar.bare)
  | pair _ a b => pair 0 (bare a) (bare b)
  | knot _ m => knot 0 m

/-- Items without their labels. -/
def bareAll : List Data → List Data
  | [] => []
  | x :: xs => bare x :: bareAll xs

/-- Entries without their labels. -/
def bareEntries : List (Scalar × Data) → List (Scalar × Data)
  | [] => []
  | (k, x) :: es => (k.bare, bare x) :: bareEntries es

end

mutual

/-- Does a value lie nowhere within itself? -/
def isKnotless : Data → Bool
  | list _ xs => isKnotlessAll xs
  | map _ es => isKnotlessEntries es
  | pair _ a b => isKnotless a && isKnotless b
  | knot .. => false
  | _ => true

/-- Does none of the items have a knot? -/
def isKnotlessAll : List Data → Bool
  | [] => true
  | x :: xs => isKnotless x && isKnotlessAll xs

/-- Does no value of the entries have a knot? -/
def isKnotlessEntries : List (Scalar × Data) → Bool
  | [] => true
  | (_, x) :: es => isKnotless x && isKnotlessEntries es

end

mutual

/-- Are two values the same but for labels? -/
def isAlike : Data → Data → Bool
  | scalar s, scalar t => s.bare == t.bare
  | list _ xs, list _ ys => areAlike xs ys
  | map _ es, map _ fs => areAlikeEntries es fs
  | set _ ss, set _ ts => ss.map Scalar.bare == ts.map Scalar.bare
  | pair _ a b, pair _ c d => isAlike a c && isAlike b d
  | knot _ m, knot _ n => m == n
  | _, _ => false

/-- Are two lists of items the same but for labels? -/
def areAlike : List Data → List Data → Bool
  | [], [] => true
  | x :: xs, y :: ys => isAlike x y && areAlike xs ys
  | _, _ => false

/-- Are two lists of entries the same but for labels? -/
def areAlikeEntries : List (Scalar × Data) → List (Scalar × Data) → Bool
  | [], [] => true
  | (k, x) :: es, (l, y) :: fs => k.bare == l.bare && isAlike x y && areAlikeEntries es fs
  | _, _ => false

end

mutual

theorem bare_eq_of_isAlike : ∀ {a b : Data}, isAlike a b → a.bare = b.bare
  | scalar s, scalar t, h => by rw [bare, bare, beq_iff_eq.mp h]
  | list _ xs, list _ ys, h => by rw [bare, bare, bareAll_eq_of_areAlike h]
  | map _ es, map _ fs, h => by rw [bare, bare, bareEntries_eq_of_areAlike h]
  | set _ ss, set _ ts, h => by rw [bare, bare, beq_iff_eq.mp h]
  | pair _ a b, pair _ c d, h => by
    rw [isAlike, Bool.and_eq_true] at h
    rw [bare, bare, bare_eq_of_isAlike h.1, bare_eq_of_isAlike h.2]
  | knot _ m, knot _ n, h => by rw [bare, bare, beq_iff_eq.mp h]

theorem bareAll_eq_of_areAlike : ∀ {xs ys : List Data}, areAlike xs ys → bareAll xs = bareAll ys
  | [], [], _ => rfl
  | x :: xs, y :: ys, h => by
    rw [areAlike, Bool.and_eq_true] at h
    rw [bareAll, bareAll, bare_eq_of_isAlike h.1, bareAll_eq_of_areAlike h.2]

theorem bareEntries_eq_of_areAlike :
    ∀ {es fs : List (Scalar × Data)}, areAlikeEntries es fs → bareEntries es = bareEntries fs
  | [], [], _ => rfl
  | (k, x) :: es, (l, y) :: fs, h => by
    rw [areAlikeEntries, Bool.and_eq_true, Bool.and_eq_true] at h
    rw [bareEntries, bareEntries, beq_iff_eq.mp h.1.1, bare_eq_of_isAlike h.1.2,
      bareEntries_eq_of_areAlike h.2]

end

variable {d : Data} {es : List (Scalar × Data)} {key : String}

/-! ## Looking into a bare value -/

theorem bareAll_eq_map (xs : List Data) : bareAll xs = xs.map bare := by
  induction xs with
  | nil => rfl
  | cons x xs ih => rw [bareAll, ih, List.map_cons]

theorem bareEntries_eq_map (es : List (Scalar × Data)) :
    bareEntries es = es.map fun e => (e.1.bare, e.2.bare) := by
  induction es with
  | nil => rfl
  | cons e es ih => rw [bareEntries, ih, List.map_cons]

@[simp] theorem text?_bare (d : Data) : d.bare.text? = d.text? := by
  cases d with
  | scalar s => cases s <;> rfl
  | _ => rfl

@[simp] theorem isNull_bare (d : Data) : d.bare.isNull = d.isNull := by
  cases d with
  | scalar s => cases s <;> rfl
  | _ => rfl

@[simp] theorem items?_bare (d : Data) : d.bare.items? = d.items?.map (List.map bare) := by
  cases d with
  | list l xs =>
      rw [bare, bareAll_eq_map]
      rfl
  | _ => rfl

@[simp] theorem entries?_bare (d : Data) : d.bare.entries? = d.entries?.map bareEntries := by
  cases d <;> rfl

@[simp] theorem field_bareEntries (key : String) (es : List (Scalar × Data)) :
    field key (bareEntries es) = (field key es).map bare := by
  unfold field lookup
  rw [bareEntries_eq_map, List.find?_map]
  simp [Function.comp_def]

theorem getD_field_bareEntries (key : String) (es : List (Scalar × Data)) :
    (field key (bareEntries es)).getD null = ((field key es).getD null).bare := by
  rw [field_bareEntries]
  cases field key es <;> rfl

/-- A mapping is one with or without labels. -/
theorem exists_map_of_bare_eq (h : d.bare = map 0 es) :
    ∃ l es', d = map l es' ∧ bareEntries es' = es := by
  cases d with
  | map l es' =>
      cases h
      exact ⟨l, es', rfl, rfl⟩
  | _ => cases h

/-! ## Values without knots -/

theorem isKnotlessEntries_iff : isKnotlessEntries es ↔ ∀ e ∈ es, e.2.isKnotless := by
  induction es with
  | nil => simp [isKnotlessEntries]
  | cons e es ih => rw [isKnotlessEntries, Bool.and_eq_true, ih, List.forall_mem_cons]

mutual

theorem isKnotless_bare : ∀ d : Data, d.bare.isKnotless = d.isKnotless
  | list _ xs => isKnotlessAll_bareAll xs
  | map _ es => isKnotlessEntries_bareEntries es
  | pair _ a b => by rw [bare, isKnotless, isKnotless, isKnotless_bare a, isKnotless_bare b]
  | scalar _ | set .. | knot .. => rfl

theorem isKnotlessAll_bareAll : ∀ xs : List Data, isKnotlessAll (bareAll xs) = isKnotlessAll xs
  | [] => rfl
  | x :: xs => by
    rw [bareAll, isKnotlessAll, isKnotlessAll, isKnotless_bare x, isKnotlessAll_bareAll xs]

theorem isKnotlessEntries_bareEntries :
    ∀ es : List (Scalar × Data), isKnotlessEntries (bareEntries es) = isKnotlessEntries es
  | [] => rfl
  | (k, x) :: es => by
    rw [bareEntries, isKnotlessEntries, isKnotlessEntries, isKnotless_bare x,
      isKnotlessEntries_bareEntries es]

end

mutual

theorem untie_of_isKnotless (find : Nat → Option Data) : ∀ {d : Data}, d.isKnotless → untie find d = d
  | list _ xs, h => by rw [untie, untieAll_of_isKnotless find h]
  | map _ es, h => by rw [untie, untieEntries_of_isKnotless find h]
  | pair _ a b, h => by
    rw [isKnotless, Bool.and_eq_true] at h
    rw [untie, untie_of_isKnotless find h.1, untie_of_isKnotless find h.2]
  | scalar _, _ | set .., _ => rfl

theorem untieAll_of_isKnotless (find : Nat → Option Data) :
    ∀ {xs : List Data}, isKnotlessAll xs → untieAll find xs = xs
  | [], _ => rfl
  | x :: xs, h => by
    rw [isKnotlessAll, Bool.and_eq_true] at h
    rw [untieAll, untie_of_isKnotless find h.1, untieAll_of_isKnotless find h.2]

theorem untieEntries_of_isKnotless (find : Nat → Option Data) :
    ∀ {es : List (Scalar × Data)}, isKnotlessEntries es → untieEntries find es = es
  | [], _ => rfl
  | (k, x) :: es, h => by
    rw [isKnotlessEntries, Bool.and_eq_true] at h
    rw [untieEntries, untie_of_isKnotless find h.1, untieEntries_of_isKnotless find h.2]

end

theorem unroll_of_isKnotless (root : Data) (n : Nat) (h : d.isKnotless) : unroll root n d = d := by
  induction n with
  | zero => rfl
  | succ n ih => rw [unroll, untie_of_isKnotless _ h, ih]

/-! ## Changing entries -/

variable {label : Nat} {value : Data} {records : List (Scalar × Data)}

theorem field_cons (key : String) (e : Scalar × Data) (es : List (Scalar × Data)) :
    field key (e :: es) = if e.1 = .text key then some e.2 else field key es := by
  unfold field lookup
  rw [List.find?_cons]
  split
  · next h => rw [if_pos (Scalar.sameKey_text_iff.mp h)]; rfl
  · next h =>
    rw [if_neg fun heq => Bool.false_ne_true (h.symm.trans (Scalar.sameKey_text_iff.mpr heq))]

theorem field_insert_self (key : String) (value : Data) (es : List (Scalar × Data)) :
    field key (insert (.text key) value es) = some value := by
  induction es with
  | nil => rw [insert, field_cons, if_pos rfl]
  | cons e es ih =>
      rw [insert]
      split
      · next h => rw [field_cons, if_pos (Scalar.sameKey_text_iff.mp h)]
      · next h => rw [field_cons, if_neg (mt Scalar.sameKey_text_iff.mpr h), ih]

theorem isKnotlessEntries_insert (hes : isKnotlessEntries es) (hvalue : value.isKnotless)
    (k : Scalar) : isKnotlessEntries (insert k value es) := by
  induction es with
  | nil => simp [insert, isKnotlessEntries, hvalue]
  | cons e es ih =>
      rw [isKnotlessEntries, Bool.and_eq_true] at hes
      rw [insert]
      split
      · simp [isKnotlessEntries, hvalue, hes.2]
      · simp [isKnotlessEntries, hes.1, ih hes.2]

theorem isKnotlessEntries_erase (h : isKnotlessEntries es) (k : Scalar) :
    isKnotlessEntries (erase k es) := by
  rw [isKnotlessEntries_iff] at h ⊢
  exact fun e he => h e ((List.mem_filter.mp he).1)

theorem field_replaceEntries (key : String) (es : List (Scalar × Data)) :
    field key (replaceEntries label records es) = (field key es).map (replace label records) := by
  induction es with
  | nil => rfl
  | cons e es ih =>
      rw [replaceEntries, field_cons, field_cons, ih]
      split <;> rfl

mutual

theorem isKnotless_replace (hrecords : isKnotlessEntries records) :
    ∀ {d : Data}, d.isKnotless → (replace label records d).isKnotless
  | list _ xs, h => isKnotlessAll_replaceAll hrecords h
  | map l es, h => by
    rw [replace]
    split
    · exact hrecords
    · exact isKnotlessEntries_replaceEntries hrecords h
  | pair _ a b, h => by
    rw [isKnotless, Bool.and_eq_true] at h
    rw [replace, isKnotless, isKnotless_replace hrecords h.1, isKnotless_replace hrecords h.2]
    rfl
  | scalar _, _ | set .., _ => rfl

theorem isKnotlessAll_replaceAll (hrecords : isKnotlessEntries records) :
    ∀ {xs : List Data}, isKnotlessAll xs → isKnotlessAll (replaceAll label records xs)
  | [], _ => rfl
  | x :: xs, h => by
    rw [isKnotlessAll, Bool.and_eq_true] at h
    rw [replaceAll, isKnotlessAll, isKnotless_replace hrecords h.1,
      isKnotlessAll_replaceAll hrecords h.2]
    rfl

theorem isKnotlessEntries_replaceEntries (hrecords : isKnotlessEntries records) :
    ∀ {es : List (Scalar × Data)}, isKnotlessEntries es →
      isKnotlessEntries (replaceEntries label records es)
  | [], _ => rfl
  | (k, x) :: es, h => by
    rw [isKnotlessEntries, Bool.and_eq_true] at h
    rw [replaceEntries, isKnotlessEntries, isKnotless_replace hrecords h.1,
      isKnotlessEntries_replaceEntries hrecords h.2]
    rfl

end

end Data

end Conformity
