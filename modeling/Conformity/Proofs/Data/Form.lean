import Mathlib.Data.List.Nodup
import Conformity.Proofs.Data.Misfit

/-!
# Forms whose misfits can be told

The steps inside a list are positions, and those inside a record are names of fields, so that the
places of misfits can always be told in an order (`Form.IsPlain.tellable`). Only a table brings keys
of its own into places: the misfits of its values can be told if their keys are of one sort
(`Form.tellable_tableOf_iff`).
-/

namespace Conformity

namespace Route

variable {a b : Scalar} {r s : Route}

/-- Two steps can be spelled, and both are numbers or both are texts. -/
def Alike (a b : Scalar) : Prop :=
  ∃ k l, key? a = some k ∧ key? b = some l ∧ k.isLeft = l.isLeft

theorem isLeft_eq_iff {k l : Int ⊕ String} : k.isLeft = l.isLeft ↔ k = l ∨ k < l ∨ l < k := by
  cases k with
  | inl m =>
    cases l with
    | inl n => simpa using or_left_comm.mp (lt_trichotomy m n)
    | inr t => simp
  | inr s =>
    cases l with
    | inl n => simp
    | inr t =>
      rw [Sum.inr_lt_inr_iff, Sum.inr_lt_inr_iff, Sum.inr.injEq]
      exact ⟨fun _ => or_left_comm.mp (lt_trichotomy s t), fun _ => rfl⟩

theorem sortable_nil_iff : Sortable [] r ↔ ∃ ks, Reads r ks := by
  constructor
  · rintro ⟨_, ls, -, hr, -⟩
    exact ⟨ls, hr⟩
  · rintro ⟨ks, hr⟩
    refine ⟨[], ks, .nil, hr, ?_⟩
    cases ks with
    | nil => exact .inl rfl
    | cons k ks => exact .inr (.inl (List.nil_lt_cons k ks))

theorem sortable_cons_iff : Sortable (a :: r) (b :: s) ↔
    (∃ ks, Reads r ks) ∧ (∃ ls, Reads s ls) ∧ Alike a b ∧ (key? a = key? b → Sortable r s) := by
  constructor
  · rintro ⟨_, _, hr, hs, horder⟩
    cases hr with
    | @cons _ k _ ks ha hr =>
    cases hs with
    | @cons _ l _ ls hb hs =>
    rw [List.cons_lt_cons_iff, List.cons_lt_cons_iff, List.cons.injEq] at horder
    refine ⟨⟨ks, hr⟩, ⟨ls, hs⟩, ⟨k, l, ha, hb, isLeft_eq_iff.mpr (by tauto)⟩, fun heq => ?_⟩
    rw [ha, hb] at heq
    obtain rfl := Option.some.inj heq
    exact ⟨ks, ls, hr, hs, by simpa using horder⟩
  · rintro ⟨⟨ks, hr⟩, ⟨ls, hs⟩, ⟨k, l, ha, hb, halike⟩, hrest⟩
    refine ⟨k :: ks, l :: ls, .cons ha hr, .cons hb hs, ?_⟩
    rw [List.cons_lt_cons_iff, List.cons_lt_cons_iff, List.cons.injEq]
    rcases isLeft_eq_iff.mp halike with rfl | hlt | hlt
    · obtain ⟨ks', ls', hr', hs', horder⟩ := hrest (by rw [ha, hb])
      obtain rfl := hr.unique hr'
      obtain rfl := hs.unique hs'
      simpa using horder
    · exact .inr (.inl (.inl hlt))
    · exact .inr (.inr (.inl hlt))

/-- Places can be told in an order if all that lie inside parts of a value can. -/
theorem sortable_of_inner {P : Route → Prop} (h : ∀ r s, P r → P s → Sortable r s)
    (hr : r = [] ∨ P r) (hs : s = [] ∨ P s) : Sortable r s := by
  have hspelled : ∀ {q : Route}, q = [] ∨ P q → ∃ ks, Reads q ks := by
    rintro q (rfl | hq)
    · exact ⟨[], .nil⟩
    · exact (sortable_iff_less.mp (h q q hq hq)).1
  rcases hr with rfl | hr
  · exact sortable_nil_iff.mpr (hspelled hs)
  · rcases hs with rfl | hs
    · exact (sortable_nil_iff.mpr (hspelled (.inr hr))).symm
    · exact h r s hr hs

/-- All keys are texts, or all are whole numbers and truth values. -/
def KeysAgree (keys : List Scalar) : Prop :=
  (∀ a ∈ keys, ∃ s, a = .text s) ∨ ∀ a ∈ keys, (∃ n, a = .int n) ∨ ∃ b, a = .bool b

theorem exists_key?_inr_iff : (∃ s, key? a = some (.inr s)) ↔ ∃ s, a = .text s := by
  cases a <;> simp [key?]

theorem exists_key?_inl_iff :
    (∃ n, key? a = some (.inl n)) ↔ (∃ n, a = .int n) ∨ ∃ b, a = .bool b := by
  cases a <;> simp [key?]

theorem keysAgree_iff {keys : List Scalar} :
    KeysAgree keys ↔ ∀ a ∈ keys, ∀ b ∈ keys, Alike a b := by
  unfold KeysAgree
  simp only [← exists_key?_inr_iff, ← exists_key?_inl_iff]
  constructor
  · rintro (h | h)
    · intro a ha b hb
      obtain ⟨s, hs⟩ := h a ha
      obtain ⟨t, ht⟩ := h b hb
      exact ⟨.inr s, .inr t, hs, ht, rfl⟩
    · intro a ha b hb
      obtain ⟨m, hm⟩ := h a ha
      obtain ⟨n, hn⟩ := h b hb
      exact ⟨.inl m, .inl n, hm, hn, rfl⟩
  · intro h
    -- the first key tells of which sort all are
    cases keys with
    | nil => simp
    | cons a keys =>
        obtain ⟨k, -, hk, -⟩ := h a List.mem_cons_self a List.mem_cons_self
        cases k with
        | inl m =>
            refine .inr fun b hb => ?_
            obtain ⟨k, l, ha, hl, hleft⟩ := h a List.mem_cons_self b hb
            rw [hk] at ha
            cases ha
            cases l with
            | inl n => exact ⟨n, hl⟩
            | inr t => cases hleft
        | inr s =>
            refine .inl fun b hb => ?_
            obtain ⟨k, l, ha, hl, hleft⟩ := h a List.mem_cons_self b hb
            rw [hk] at ha
            cases ha
            cases l with
            | inl n => cases hleft
            | inr t => exact ⟨t, hl⟩

end Route

/-! ## The places of misfits -/

namespace Form

open Route Misfit

variable {sorts : List DataSort} {required : List String} {fields : List (String × Form)}
  {form : Form} {d : Data} {m : Misfit}

theorem route_of_mem_sortMisfits (h : m ∈ sortMisfits sorts d) : m.route = [] := by
  unfold sortMisfits at h
  split at h
  · cases h
  · rw [List.mem_singleton.mp h]

theorem exists_of_mem_atPositions {check : Data → List Misfit} {position : Nat} {ds : List Data}
    (h : m ∈ atPositions check position ds) :
    ∃ n : Int, ∃ d ∈ ds, ∃ m' ∈ check d, m.route = .int n :: m'.route := by
  induction ds generalizing position with
  | nil => cases h
  | cons d ds ih =>
      rcases List.mem_append.mp h with h | h
      · obtain ⟨m', hm', rfl⟩ := List.mem_map.mp h
        exact ⟨position, d, List.mem_cons_self, m', hm', rfl⟩
      · obtain ⟨n, d', hd', hm'⟩ := ih h
        exact ⟨n, d', List.mem_cons_of_mem _ hd', hm'⟩

theorem mem_fieldMisfits {es : List (Scalar × Data)} : m ∈ fieldMisfits fields es ↔
    ∃ e ∈ fields, ∃ d, Data.field e.1 es = some d ∧
      ∃ m' ∈ e.2.misfits d, m'.inside (.text e.1) = m := by
  induction fields with
  | nil => simp [fieldMisfits]
  | cons e fields ih =>
      obtain ⟨name, form⟩ := e
      rw [fieldMisfits, List.mem_append, ih, List.exists_mem_cons_iff]
      cases Data.field name es <;> simp

/-- A place inside an item of a list. -/
def InItem (form : Form) (r : Route) : Prop :=
  ∃ (n : Int) (d : Data), ∃ m ∈ form.misfits d, r = .int n :: m.route

/-- A place inside a value of a table. -/
def InValue (form : Form) (es : List (Scalar × Data)) (r : Route) : Prop :=
  ∃ e ∈ es, ∃ m ∈ form.misfits e.2, r = e.1 :: m.route

/-- A place inside a field that holds one of certain values. -/
def InField (fields : List (String × Form)) (holds : String → Data → Prop) (r : Route) : Prop :=
  ∃ e ∈ fields, ∃ d, holds e.1 d ∧ ∃ m ∈ e.2.misfits d, r = .text e.1 :: m.route

theorem mem_misfits_listOf (h : m ∈ (listOf sorts form).misfits d) :
    m.route = [] ∨ InItem form m.route := by
  rw [misfits] at h
  rcases List.mem_append.mp h with h | h
  · exact .inl (route_of_mem_sortMisfits h)
  · obtain ⟨n, d', -, hm'⟩ := exists_of_mem_atPositions h
    exact .inr ⟨n, d', hm'⟩

theorem mem_misfits_record (h : m ∈ (record sorts required fields).misfits d) :
    m.route = [] ∨
      InField fields (fun name v => ∃ es, d.entries? = some es ∧ Data.field name es = some v)
        m.route := by
  rw [misfits] at h
  rcases List.mem_append.mp h with h | h
  · exact .inl (route_of_mem_sortMisfits h)
  · split at h
    · cases h
    · next es hes =>
      rcases List.mem_append.mp h with h | h
      · obtain ⟨name, -, rfl⟩ := List.mem_map.mp h
        exact .inl rfl
      · obtain ⟨e, he, v, hv, m', hm', rfl⟩ := mem_fieldMisfits.mp h
        exact .inr ⟨e, he, v, ⟨es, hes, hv⟩, m', hm', rfl⟩

theorem mem_misfits_tableOf (h : m ∈ (tableOf sorts form).misfits d) :
    m.route = [] ∨ InValue form ((d.entries?).getD []) m.route := by
  rw [misfits] at h
  rcases List.mem_append.mp h with h | h
  · exact .inl (route_of_mem_sortMisfits h)
  · obtain ⟨e, he, hm⟩ := List.mem_flatMap.mp h
    obtain ⟨m', hm', rfl⟩ := List.mem_map.mp hm
    exact .inr ⟨e, he, m', hm', rfl⟩

/-! ## Plain forms -/

/-- Forms without tables. -/
inductive IsPlain : Form → Prop
  | choice {texts : List String} : IsPlain (choice texts)
  | ofSort {sorts : List DataSort} : IsPlain (ofSort sorts)
  | listOf {sorts : List DataSort} {form : Form} : IsPlain form → IsPlain (listOf sorts form)
  | record {sorts : List DataSort} {required : List String} {fields : List (String × Form)} :
      (fields.map (·.1)).Nodup → (∀ e ∈ fields, IsPlain e.2) →
        IsPlain (record sorts required fields)

theorem sortable_inField {holds : String → Data → Prop} (hnodup : (fields.map (·.1)).Nodup)
    (h : ∀ e ∈ fields, ∀ d d', holds e.1 d → holds e.1 d' →
      ∀ m ∈ e.2.misfits d, ∀ n ∈ e.2.misfits d', m.route.Sortable n.route)
    {r s : Route} (hr : InField fields holds r) (hs : InField fields holds s) : Sortable r s := by
  obtain ⟨e, he, d, hd, m, hm, rfl⟩ := hr
  obtain ⟨e', he', d', hd', n, hn, rfl⟩ := hs
  have hspelled := (sortable_iff_less.mp (h e he d d hd hd m hm m hm)).1
  have hspelled' := (sortable_iff_less.mp (h e' he' d' d' hd' hd' n hn n hn)).1
  refine sortable_cons_iff.mpr ⟨hspelled, hspelled', ⟨_, _, rfl, rfl, rfl⟩, fun hname => ?_⟩
  have hsame : e.1 = e'.1 := by simpa [key?] using hname
  obtain rfl := List.inj_on_of_nodup_map hnodup he he' hsame
  exact h e he d d' hd hd' m hm n hn

/-- The misfits of any two values can be told together. -/
theorem IsPlain.sortable (h : IsPlain form) {d e : Data} {m n : Misfit} (hm : m ∈ form.misfits d)
    (hn : n ∈ form.misfits e) : m.route.Sortable n.route := by
  induction h generalizing d e m n with
  | @choice texts =>
      have hroot : ∀ {d : Data} {m : Misfit}, m ∈ (Form.choice texts).misfits d → m.route = [] := by
        intro d m hm
        rw [misfits] at hm
        split at hm
        · cases hm
        · rw [List.mem_singleton.mp hm]
      rw [hroot hm, hroot hn]
      exact sortable_nil_iff.mpr ⟨[], .nil⟩
  | ofSort =>
      rw [misfits] at hm hn
      rw [route_of_mem_sortMisfits hm, route_of_mem_sortMisfits hn]
      exact sortable_nil_iff.mpr ⟨[], .nil⟩
  | listOf _ ih =>
      refine sortable_of_inner (P := InItem _) ?_ (mem_misfits_listOf hm) (mem_misfits_listOf hn)
      rintro r s ⟨i, d, m, hm, rfl⟩ ⟨j, e, n, hn, rfl⟩
      exact sortable_cons_iff.mpr ⟨(sortable_iff_less.mp (ih hm hm)).1,
        (sortable_iff_less.mp (ih hn hn)).1, ⟨_, _, rfl, rfl, rfl⟩, fun _ => ih hm hn⟩
  | @record sorts required fields hnodup _ ih =>
      have hinner : ∀ {d : Data} {m : Misfit}, m ∈ (Form.record sorts required fields).misfits d →
          m.route = [] ∨ InField fields (fun _ _ => True) m.route := by
        intro d m hm
        refine (mem_misfits_record hm).imp_right ?_
        rintro ⟨e, he, v, -, hm'⟩
        exact ⟨e, he, v, trivial, hm'⟩
      refine sortable_of_inner (fun r s => sortable_inField hnodup ?_) (hinner hm) (hinner hn)
      exact fun e he _ _ _ _ m hm n hn => ih e he hm hn

theorem IsPlain.tellable (h : IsPlain form) (d : Data) : Tellable (form.misfits d) :=
  fun _ hm _ hn => h.sortable hm hn

/-! ## Tables and records -/

/-- The keys of a table under which something does not fit. -/
def unfitKeys (form : Form) (d : Data) : List Scalar :=
  (((d.entries?).getD []).filter fun e => !(form.misfits e.2).isEmpty).map (·.1)

theorem mem_unfitKeys {a : Scalar} :
    a ∈ unfitKeys form d ↔ ∃ e ∈ (d.entries?).getD [], ∃ m, m ∈ form.misfits e.2 ∧ e.1 = a := by
  simp [unfitKeys, List.eq_nil_iff_forall_not_mem, and_assoc]

/-- The misfits of a table of plain values can be told exactly if their keys are of one sort. -/
theorem tellable_tableOf_iff (h : IsPlain form) :
    Tellable ((tableOf sorts form).misfits d) ↔ KeysAgree (unfitKeys form d) := by
  rw [keysAgree_iff]
  constructor
  · intro htell a ha b hb
    obtain ⟨e, he, m, hm, rfl⟩ := mem_unfitKeys.mp ha
    obtain ⟨e', he', n, hn, rfl⟩ := mem_unfitKeys.mp hb
    have hmem : ∀ {e : Scalar × Data} {m : Misfit}, e ∈ (d.entries?).getD [] → m ∈ form.misfits e.2 →
        m.inside e.1 ∈ (tableOf sorts form).misfits d := by
      intro e m he hm
      rw [misfits]
      exact List.mem_append_right _ (List.mem_flatMap.mpr ⟨e, he, List.mem_map_of_mem hm⟩)
    exact (sortable_cons_iff.mp (htell _ (hmem he hm) _ (hmem he' hn))).2.2.1
  · intro hkeys m hm n hn
    refine sortable_of_inner (P := InValue _ _) ?_ (mem_misfits_tableOf hm) (mem_misfits_tableOf hn)
    rintro r s ⟨e, he, m, hm, rfl⟩ ⟨e', he', n, hn, rfl⟩
    have hspelled := (sortable_iff_less.mp (h.sortable hm hm)).1
    have hspelled' := (sortable_iff_less.mp (h.sortable hn hn)).1
    exact sortable_cons_iff.mpr ⟨hspelled, hspelled', hkeys _ (mem_unfitKeys.mpr ⟨e, he, m, hm, rfl⟩) _
      (mem_unfitKeys.mpr ⟨e', he', n, hn, rfl⟩), fun _ => h.sortable hm hn⟩

/-- The misfits of a record can be told exactly if those of each of its fields can. -/
theorem tellable_record_iff (hnodup : (fields.map (·.1)).Nodup) :
    Tellable ((record sorts required fields).misfits d) ↔
      ∀ es, d.entries? = some es → ∀ e ∈ fields, ∀ v, Data.field e.1 es = some v →
        Tellable (e.2.misfits v) := by
  constructor
  · intro htell es hes e he v hv m hm n hn
    have hmem : ∀ m ∈ e.2.misfits v,
        m.inside (.text e.1) ∈ (record sorts required fields).misfits d := by
      intro m hm
      rw [misfits, hes]
      exact List.mem_append_right _ (List.mem_append_right _
        (mem_fieldMisfits.mpr ⟨e, he, v, hv, m, hm, rfl⟩))
    exact (sortable_cons_iff.mp (htell _ (hmem m hm) _ (hmem n hn))).2.2.2 rfl
  · intro h m hm n hn
    refine sortable_of_inner (fun r s => sortable_inField hnodup ?_) (mem_misfits_record hm)
      (mem_misfits_record hn)
    rintro e he v v' ⟨es, hes, hv⟩ ⟨es', hes', hv'⟩ m hm n hn
    rw [hes] at hes'
    cases hes'
    rw [hv] at hv'
    cases hv'
    exact h es hes e he v hv m hm n hn

end Form

end Conformity
