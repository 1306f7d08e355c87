import Mathlib.Data.List.Chain
import Mathlib.Data.List.Forall2
import Mathlib.Data.String.Basic
import Mathlib.Data.Sum.Order
import Conformity.Data.Form
import Conformity.Proofs.Work

/-!
# Telling misfits

Places are told in their order, and there is no order between a number and a text. A report of
misfits comes about exactly if any two of their places can be told in an order
(`Misfit.exists_report_iff`): the sorting compares neighbours only, but in an ordered list that is
enough to compare all.
-/

namespace Conformity

/-! ## The order of places -/

namespace Route

/-- What a step is ordered by: a number or a text. Other steps cannot be spelled. -/
def key? : Scalar → Option (Int ⊕ String)
  | .int n => some (.inl n)
  | .bool b => some (.inl (if b then 1 else 0))
  | .text s => some (.inr s)
  | _ => none

/-- The keys of the steps of a place that can be spelled. -/
def Reads (r : Route) (ks : List (Int ⊕ String)) : Prop :=
  List.Forall₂ (fun s k => key? s = some k) r ks

/-- Two places can be told in an order: both can be spelled, and where they part both have a number
or both a text. -/
def Sortable (r s : Route) : Prop :=
  ∃ ks ls, Reads r ks ∧ Reads s ls ∧ (ks = ls ∨ ks < ls ∨ ls < ks)

variable {a b : Scalar} {k l : Int ⊕ String} {r s : Route} {ks ls : List (Int ⊕ String)}

theorem Reads.unique (h : Reads r ks) (h' : Reads r ls) : ks = ls := by
  induction h generalizing ls with
  | nil =>
      cases h'
      rfl
  | cons hk _ ih =>
      cases h' with
      | cons hk' hrest =>
          rw [hk] at hk'
          rw [Option.some.inj hk', ih hrest]

theorem exists_reads_iff : (∃ ks, Reads r ks) ↔ ∀ s ∈ r, (key? s).isSome := by
  induction r with
  | nil => exact ⟨fun _ => by simp, fun _ => ⟨[], .nil⟩⟩
  | cons s r ih =>
      rw [List.forall_mem_cons, ← ih]
      constructor
      · rintro ⟨ks, hks⟩
        cases hks with
        | cons hk hrest => exact ⟨by simp [hk], _, hrest⟩
      · rintro ⟨hk, ks, hks⟩
        obtain ⟨k, hk⟩ := Option.isSome_iff_exists.mp hk
        exact ⟨k :: ks, .cons hk hks⟩

theorem stepText_isOk_iff : (∃ t, stepText a = .ok t) ↔ (key? a).isSome := by
  cases a with
  | text s =>
      unfold stepText
      split <;> simp [key?] <;> split <;> simp
  | _ => simp [stepText, key?]

theorem text_isOk_iff : (∃ t, text r = .ok t) ↔ ∃ ks, Reads r ks := by
  rw [exists_reads_iff]
  simp only [← stepText_isOk_iff]
  rw [← exists_mapM_eq_ok_iff]
  simp only [text, bind_eq_ok]
  constructor
  · rintro ⟨_, ts, hts, -⟩
    exact ⟨ts, hts⟩
  · rintro ⟨ts, hts⟩
    exact ⟨_, ts, hts, rfl⟩

theorem sameKey_iff (ha : key? a = some k) (hb : key? b = some l) : a.sameKey b ↔ k = l := by
  cases a <;> cases b <;> cases ha <;> cases hb <;> simp [Scalar.sameKey, Scalar.whole?]

theorem stepLess_eq_true_iff (ha : key? a = some k) (hb : key? b = some l) :
    stepLess a b = .ok true ↔ k < l := by
  cases a <;> cases b <;> cases ha <;> cases hb <;> simp [stepLess, Scalar.whole?]

/-- Different values of one sort are ordered in one of two ways. -/
theorem not_lt_iff_lt {α : Type} [LinearOrder α] {x y : α} (h : x ≠ y) : ¬ x < y ↔ y < x :=
  ⟨fun hlt => lt_of_le_of_ne (not_lt.mp hlt) h.symm, not_lt_of_gt⟩

theorem stepLess_eq_false_iff (ha : key? a = some k) (hb : key? b = some l) (hne : k ≠ l) :
    stepLess a b = .ok false ↔ l < k := by
  cases a <;> cases b <;> cases ha <;> cases hb <;>
    simp only [stepLess, Scalar.whole?, Except.ok.injEq, decide_eq_false_iff_not, reduceCtorEq,
      Sum.inl_lt_inl_iff, Sum.inr_lt_inr_iff, Sum.not_inl_lt_inr, Sum.not_inr_lt_inl]
  all_goals exact not_lt_iff_lt fun heq => hne (by rw [heq])

theorem less_iff (hr : Reads r ks) (hs : Reads s ls) :
    (less r s = .ok true ↔ ks < ls) ∧ (less r s = .ok false ↔ ls = ks ∨ ls < ks) := by
  induction hr generalizing s ls with
  | nil => 
    cases hs with
    | nil => simp [less]
    | cons => simp [less]
  | @cons a k r ks ha hr ih =>
    cases hs with
    | nil => simp [less]
    | @cons b l s ls hb hs =>
      obtain ⟨htrue, hfalse⟩ := ih hs
      unfold less
      split
      · next h =>
        obtain rfl := (sameKey_iff ha hb).mp h
        simp [htrue, hfalse]
      · next h =>
        have hne : k ≠ l := fun heq => h ((sameKey_iff ha hb).mpr heq)
        simp [stepLess_eq_true_iff ha hb, stepLess_eq_false_iff ha hb hne, List.cons_lt_cons_iff, hne, hne.symm]

theorem sortable_iff_less : Sortable r s ↔
    (∃ ks, Reads r ks) ∧ (∃ ls, Reads s ls) ∧ ∃ less, r.less s = .ok less := by
  constructor
  · rintro ⟨ks, ls, hr, hs, horder⟩
    obtain ⟨htrue, hfalse⟩ := less_iff hr hs
    refine ⟨⟨ks, hr⟩, ⟨ls, hs⟩, ?_⟩
    rcases horder with heq | hlt | hlt
    · exact ⟨false, hfalse.mpr (.inl heq.symm)⟩
    · exact ⟨true, htrue.mpr hlt⟩
    · exact ⟨false, hfalse.mpr (.inr hlt)⟩
  · rintro ⟨⟨ks, hr⟩, ⟨ls, hs⟩, less, hless⟩
    obtain ⟨htrue, hfalse⟩ := less_iff hr hs
    refine ⟨ks, ls, hr, hs, ?_⟩
    cases less with
    | true => exact .inr (.inl (htrue.mp hless))
    | false => exact (hfalse.mp hless).imp Eq.symm .inr

theorem Sortable.symm (h : Sortable r s) : Sortable s r := by
  obtain ⟨ks, ls, hr, hs, horder⟩ := h
  exact ⟨ls, ks, hs, hr, horder.imp Eq.symm Or.symm⟩

end Route

/-! ## Sorting misfits -/

namespace Misfit

/-- Any two misfits can be told in an order. -/
def Tellable (ms : List Misfit) : Prop := ∀ m ∈ ms, ∀ n ∈ ms, m.route.Sortable n.route

/-- A misfit that is told before another one or at its place. -/
def NotAfter (m n : Misfit) : Prop :=
  ∃ ks ls, m.route.Reads ks ∧ n.route.Reads ls ∧ (ks = ls ∨ ks < ls)

variable {m n : Misfit} {ms out sorted : List Misfit}

theorem NotAfter.sortable (h : NotAfter m n) : m.route.Sortable n.route := by
  obtain ⟨ks, ls, hm, hn, horder⟩ := h
  exact ⟨ks, ls, hm, hn, horder.imp_right .inl⟩

theorem NotAfter.trans {l : Misfit} (h : NotAfter l m) (h' : NotAfter m n) : NotAfter l n := by
  obtain ⟨ks, ls, hl, hm, horder⟩ := h
  obtain ⟨ls', os, hm', hn, horder'⟩ := h'
  obtain rfl := hm.unique hm'
  refine ⟨ks, os, hl, hn, ?_⟩
  rcases horder with rfl | hlt
  · exact horder'
  · rcases horder' with rfl | hlt'
    · exact .inr hlt
    · exact .inr (List.lt_trans hlt hlt')

instance : Trans NotAfter NotAfter NotAfter := ⟨NotAfter.trans⟩

theorem notAfter_of_before (hm : ∃ ks, m.route.Reads ks) (hn : ∃ ls, n.route.Reads ls)
    (h : before m n = .ok true) : NotAfter m n := by
  obtain ⟨ks, hm⟩ := hm
  obtain ⟨ls, hn⟩ := hn
  exact ⟨ks, ls, hm, hn, .inr ((Route.less_iff hm hn).1.mp h)⟩

theorem notAfter_of_not_before (hm : ∃ ks, m.route.Reads ks) (hn : ∃ ls, n.route.Reads ls)
    (h : before m n = .ok false) : NotAfter n m := by
  obtain ⟨ks, hm⟩ := hm
  obtain ⟨ls, hn⟩ := hn
  exact ⟨ls, ks, hn, hm, (Route.less_iff hm hn).2.mp h⟩

/-! ### What is sorted stays the same -/

theorem insertAll_perm (h : insertAll sorted ms = .ok out) : out.Perm (sorted ++ ms) := by
  induction ms generalizing sorted with
  | nil =>
      cases h
      simp
  | cons m ms ih =>
      obtain ⟨place, -, h⟩ := bind_eq_ok.mp h
      refine (ih h).trans ?_
      have hinsert : (sorted.take place ++ m :: sorted.drop place).Perm (m :: sorted) := by
        conv_rhs => rw [← List.take_append_drop place sorted]
        exact List.perm_middle
      exact (hinsert.append_right ms).trans List.perm_middle.symm

theorem ordered_perm (h : ordered ms = .ok out) : out.Perm ms := by
  match ms with
  | [] | [_] =>
      cases h
      rfl
  | m :: n :: ms =>
      obtain ⟨descending, -, h⟩ := bind_eq_ok.mp h
      obtain ⟨count, -, h⟩ := bind_eq_ok.mp h
      refine (insertAll_perm h).trans ?_
      have hfront : (if descending then ((m :: n :: ms).take count).reverse
          else (m :: n :: ms).take count).Perm ((m :: n :: ms).take count) := by
        split
        · exact List.reverse_perm _
        · rfl
      exact (hfront.append_right _).trans (.of_eq (List.take_append_drop count _))

/-! ### What is sorted is in order -/

theorem pairwise_split {α : Type} {R : α → α → Prop} {xs : List α} {x : α} {i : Nat}
    (h : xs.Pairwise R) (hx : xs[i]? = some x) :
    (∀ y ∈ xs.take i, R y x) ∧ ∀ y ∈ xs.drop (i + 1), R x y := by
  obtain ⟨hi, rfl⟩ := List.getElem?_eq_some_iff.mp hx
  rw [← List.take_append_drop i xs, List.drop_eq_getElem_cons hi, List.pairwise_append,
    List.pairwise_cons] at h
  exact ⟨fun y hy => h.2.2 y hy _ List.mem_cons_self, h.2.1.1⟩

/-- Halving finds the place of a misfit among ordered ones. -/
theorem placeAmong_spec (hsorted : sorted.Pairwise NotAfter)
    (hspelled : ∀ n ∈ sorted, ∃ ks, n.route.Reads ks) (hm : ∃ ks, m.route.Reads ks)
    {fuel low high place : Nat} (hfuel : high - low < fuel) (hhigh : high ≤ sorted.length)
    (hbelow : ∀ n ∈ sorted.take low, NotAfter n m) (habove : ∀ n ∈ sorted.drop high, NotAfter m n)
    (h : placeAmong sorted.toArray m fuel low high = .ok place) (hle : low ≤ high) :
    (∀ n ∈ sorted.take place, NotAfter n m) ∧ ∀ n ∈ sorted.drop place, NotAfter m n := by
  induction fuel generalizing low high with
  | zero => omega
  | succ fuel ih =>
      unfold placeAmong at h
      split at h
      · next hlt =>
        dsimp only at h
        obtain ⟨middle, hmiddle⟩ : ∃ middle, middle = low + (high - low) / 2 := ⟨_, rfl⟩
        rw [← hmiddle] at h
        have hlength : middle < sorted.length := by omega
        have hn : sorted[middle]? = some sorted[middle] := List.getElem?_eq_getElem hlength
        rw [List.getElem?_toArray, hn] at h
        obtain ⟨hleft, hright⟩ := pairwise_split hsorted hn
        have hspelled' := hspelled _ (List.getElem_mem hlength)
        -- the comparison with the middle tells of all on one side of it
        obtain ⟨less, hless, h⟩ := bind_eq_ok.mp h
        cases less with
        | true =>
            have hbefore := notAfter_of_before hm hspelled' hless
            have habove' : ∀ n ∈ sorted.drop middle, NotAfter m n := by
              rw [List.drop_eq_getElem_cons hlength, List.forall_mem_cons]
              exact ⟨hbefore, fun n hn => hbefore.trans (hright n hn)⟩
            exact ih (by omega) (by omega) hbelow habove' h (by omega)
        | false =>
            have hbehind := notAfter_of_not_before hm hspelled' hless
            have hbelow' : ∀ n ∈ sorted.take (middle + 1), NotAfter n m := by
              rw [List.take_add_one, hn, List.forall_mem_append]
              exact ⟨fun n hn => (hleft n hn).trans hbehind, by simpa using hbehind⟩
            exact ih (by omega) hhigh hbelow' habove h (by omega)
      · next hlt =>
        obtain rfl : high = low := by omega
        cases h
        exact ⟨hbelow, habove⟩

theorem insertAll_pairwise (hspelled : ∀ n ∈ sorted ++ ms, ∃ ks, n.route.Reads ks)
    (hsorted : sorted.Pairwise NotAfter) (h : insertAll sorted ms = .ok out) :
    out.Pairwise NotAfter := by
  induction ms generalizing sorted with
  | nil =>
      cases h
      exact hsorted
  | cons m ms ih =>
      rw [List.forall_mem_append, List.forall_mem_cons] at hspelled
      obtain ⟨hfirst, hm, hrest⟩ := hspelled
      obtain ⟨place, hplace, h⟩ := bind_eq_ok.mp h
      obtain ⟨hbelow, habove⟩ := placeAmong_spec hsorted hfirst hm (Nat.lt_succ_self _) le_rfl
        (by simp) (by simp) hplace (Nat.zero_le _)
      refine ih ?_ ?_ h
      · intro n hn
        simp only [List.mem_append, List.mem_cons] at hn
        rcases hn with (hn | rfl | hn) | hn
        · exact hfirst n (List.mem_of_mem_take hn)
        · exact hm
        · exact hfirst n (List.mem_of_mem_drop hn)
        · exact hrest n hn
      · rw [← List.take_append_drop place sorted] at hsorted
        obtain ⟨htake, hdrop, hboth⟩ := List.pairwise_append.mp hsorted
        refine List.pairwise_append.mpr ⟨htake, List.pairwise_cons.mpr ⟨habove, hdrop⟩, ?_⟩
        intro x hx
        exact List.forall_mem_cons.mpr ⟨hbelow x hx, hboth x hx⟩

theorem runLength_spec {descending : Bool} {count length : Nat}
    (h : runLength descending count m ms = .ok length) :
    count ≤ length ∧
      (m :: ms.take (length - count)).IsChain fun a b => before b a = .ok descending := by
  induction ms generalizing count m with
  | nil =>
      cases h
      simp
  | cons n ms ih =>
      unfold runLength at h
      obtain ⟨less, hless, h⟩ := bind_eq_ok.mp h
      split at h
      · next heq =>
        obtain rfl := eq_of_beq heq
        obtain ⟨hle, hchain⟩ := ih h
        refine ⟨by omega, ?_⟩
        have hlength : length - count = length - (count + 1) + 1 := by omega
        rw [hlength, List.take_succ_cons]
        exact .cons_cons hless hchain
      · cases h
        simp

/-- A run of misfits, put the right way round, is in order. -/
theorem pairwise_of_run {descending : Bool} (hspelled : ∀ n ∈ ms, ∃ ks, n.route.Reads ks)
    (h : ms.IsChain fun a b => before b a = .ok descending) :
    (if descending then ms.reverse else ms).Pairwise NotAfter := by
  rw [← List.isChain_iff_pairwise]
  cases descending with
  | true =>
      rw [if_pos rfl, List.isChain_reverse]
      exact h.imp_of_mem_imp fun a b ha hb => notAfter_of_before (hspelled b hb) (hspelled a ha)
  | false =>
      exact h.imp_of_mem_imp fun a b ha hb => notAfter_of_not_before (hspelled b hb) (hspelled a ha)

theorem ordered_pairwise (hspelled : ∀ n ∈ ms, ∃ ks, n.route.Reads ks) (h : ordered ms = .ok out) :
    out.Pairwise NotAfter := by
  match ms with
  | [] | [_] =>
      cases h
      simp
  | m :: n :: ms =>
      obtain ⟨descending, hless, h⟩ := bind_eq_ok.mp h
      obtain ⟨count, hcount, h⟩ := bind_eq_ok.mp h
      obtain ⟨hle, hchain⟩ := runLength_spec hcount
      -- the run at the front is in order once it is put the right way round
      have hrun : ((m :: n :: ms).take count).IsChain fun a b => before b a = .ok descending := by
        obtain ⟨k, rfl⟩ := Nat.exists_eq_add_of_le' hle
        exact .cons_cons hless (by simpa using hchain)
      have hfront := pairwise_of_run (fun x hx => hspelled x (List.mem_of_mem_take hx)) hrun
      refine insertAll_pairwise ?_ hfront h
      intro x hx
      rcases List.mem_append.mp hx with hx | hx
      · refine hspelled x (List.mem_of_mem_take (i := count) ?_)
        split at hx
        · exact List.mem_reverse.mp hx
        · exact hx
      · exact hspelled x (List.mem_of_mem_drop hx)

/-! ### What can be sorted -/

theorem exists_placeAmong (hall : ∀ n ∈ sorted, ∃ less, before m n = .ok less)
    (fuel low high : Nat) : ∃ place, placeAmong sorted.toArray m fuel low high = .ok place := by
  induction fuel generalizing low high with
  | zero => exact ⟨low, rfl⟩
  | succ fuel ih =>
      unfold placeAmong
      split
      · dsimp only
        split
        · exact ⟨low, rfl⟩
        · next n hn =>
          rw [List.getElem?_toArray] at hn
          obtain ⟨less, hless⟩ := hall n (List.mem_of_getElem? hn)
          refine exists_bind_eq_ok hless ?_
          cases less with
          | true => exact ih low _
          | false => exact ih _ high
      · exact ⟨low, rfl⟩

theorem exists_insertAll (hall : ∀ m ∈ ms, ∀ n ∈ sorted ++ ms, ∃ less, before m n = .ok less) :
    ∃ out, insertAll sorted ms = .ok out := by
  induction ms generalizing sorted with
  | nil => exact ⟨sorted, rfl⟩
  | cons m ms ih =>
      rw [List.forall_mem_cons] at hall
      obtain ⟨hm, hms⟩ := hall
      obtain ⟨place, hplace⟩ := exists_placeAmong
        (fun n hn => hm n (List.mem_append_left _ hn)) (sorted.length + 1) 0 sorted.length
      refine exists_bind_eq_ok hplace (ih fun x hx n hn => hms x hx n ?_)
      simp only [List.mem_append, List.mem_cons] at hn ⊢
      rcases hn with (hn | rfl | hn) | hn
      · exact .inl (List.mem_of_mem_take hn)
      · exact .inr (.inl rfl)
      · exact .inl (List.mem_of_mem_drop hn)
      · exact .inr (.inr hn)

theorem exists_runLength {descending : Bool} (count : Nat)
    (hall : ∀ x ∈ m :: ms, ∀ y ∈ m :: ms, ∃ less, before x y = .ok less) :
    ∃ length, runLength descending count m ms = .ok length := by
  induction ms generalizing count m with
  | nil => exact ⟨count, rfl⟩
  | cons n ms ih =>
      obtain ⟨less, hless⟩ := hall n (by simp) m (by simp)
      refine exists_bind_eq_ok hless ?_
      split
      · exact ih _ fun x hx y hy => hall x (List.mem_cons_of_mem _ hx) y (List.mem_cons_of_mem _ hy)
      · exact ⟨count, rfl⟩

theorem exists_ordered (hall : ∀ x ∈ ms, ∀ y ∈ ms, ∃ less, before x y = .ok less) :
    ∃ out, ordered ms = .ok out := by
  match ms with
  | [] => exact ⟨[], rfl⟩
  | [m] => exact ⟨[m], rfl⟩
  | m :: n :: ms =>
      obtain ⟨descending, hless⟩ := hall n (by simp) m (by simp)
      obtain ⟨count, hcount⟩ := exists_runLength 2
        fun x hx y hy => hall x (List.mem_cons_of_mem _ hx) y (List.mem_cons_of_mem _ hy)
      refine exists_bind_eq_ok hless (exists_bind_eq_ok hcount (exists_insertAll ?_))
      intro x hx y hy
      refine hall x (List.mem_of_mem_drop hx) y ?_
      rcases List.mem_append.mp hy with hy | hy
      · refine List.mem_of_mem_take (i := count) ?_
        split at hy
        · exact List.mem_reverse.mp hy
        · exact hy
      · exact List.mem_of_mem_drop hy

/-- A report comes about exactly if any two misfits can be told in an order. -/
theorem exists_report_iff : (∃ told, report ms = .ok told) ↔ Tellable ms := by
  constructor
  · rintro ⟨told, h⟩
    obtain ⟨out, hout, htold⟩ := bind_eq_ok.mp h
    have hperm := ordered_perm hout
    have hspelled : ∀ m ∈ ms, ∃ ks, m.route.Reads ks := by
      intro m hm
      obtain ⟨_, hline⟩ := exists_mapM_eq_ok_iff.mp ⟨told, htold⟩ m (hperm.mem_iff.mpr hm)
      obtain ⟨t, ht, -⟩ := bind_eq_ok.mp hline
      exact Route.text_isOk_iff.mp ⟨t, ht⟩
    have hsorted : out.Pairwise fun m n => m.route.Sortable n.route :=
      (ordered_pairwise hspelled hout).imp NotAfter.sortable
    have hself : ∀ m, m ∈ out → m.route.Sortable m.route := by
      intro m hm
      obtain ⟨ks, hks⟩ := hspelled m (hperm.mem_iff.mp hm)
      exact ⟨ks, ks, hks, hks, .inl rfl⟩
    have : Std.Symm fun m n : Misfit => m.route.Sortable n.route := ⟨fun _ _ h => h.symm⟩
    intro m hm n hn
    exact hsorted.forall_of_forall hself (hperm.mem_iff.mpr hm) (hperm.mem_iff.mpr hn)
  · intro h
    obtain ⟨out, hout⟩ := exists_ordered fun m hm n hn =>
      (Route.sortable_iff_less.mp (h m hm n hn)).2.2
    have hlines : ∀ m ∈ out, ∃ line,
        (do return (← m.route.text) ++ ": " ++ m.message : Except RouteFault String) = .ok line := by
      intro m hm
      have hm := (ordered_perm hout).mem_iff.mp hm
      obtain ⟨t, ht⟩ := Route.text_isOk_iff.mpr (Route.sortable_iff_less.mp (h m hm m hm)).1
      exact ⟨t ++ ": " ++ m.message, bind_eq_ok.mpr ⟨t, ht, rfl⟩⟩
    obtain ⟨told, htold⟩ := exists_mapM_eq_ok_iff.mpr hlines
    exact ⟨told, bind_eq_ok.mpr ⟨out, hout, htold⟩⟩

end Misfit

end Conformity
