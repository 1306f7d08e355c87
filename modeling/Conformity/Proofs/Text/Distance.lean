import Mathlib.Order.Bounds.Basic
import Conformity.Impact.Similar

/-!
# The least number of edits

An edit puts a character into a text, takes one out or replaces one. `editDistance` goes by the first
characters of two texts; it is the least number of edits that turn one text into the other
(`isLeast_editDistance`), which makes it a metric. The table that `distance` fills goes by the last
characters, row by row (`distanceRows_rowOf`). Both come to the same number, because edits can be read
backwards (`distance_exact`).
-/

namespace Conformity.Text

variable {as bs cs : List Char} {c d : Char} {m n : Nat}

/-! ## Edits -/

/-- One edit, at the front of a text or further on. -/
inductive Edit : List Char → List Char → Prop
  | insertion (c : Char) (cs : List Char) : Edit cs (c :: cs)
  | deletion (c : Char) (cs : List Char) : Edit (c :: cs) cs
  | substitution (c d : Char) (cs : List Char) : Edit (c :: cs) (d :: cs)
  | behind (c : Char) {as bs : List Char} : Edit as bs → Edit (c :: as) (c :: bs)

/-- So many edits turn one text into the other. -/
inductive Edits : Nat → List Char → List Char → Prop
  | nothing (cs : List Char) : Edits 0 cs cs
  | step {n : Nat} {as bs cs : List Char} : Edits n as bs → Edit bs cs → Edits (n + 1) as cs

namespace Edit

theorem symm (h : Edit as bs) : Edit bs as := by
  induction h with
  | insertion c cs => exact .deletion c cs
  | deletion c cs => exact .insertion c cs
  | substitution c d cs => exact .substitution d c cs
  | behind c _ ih => exact .behind c ih

theorem append_left (h : Edit as bs) (cs : List Char) : Edit (cs ++ as) (cs ++ bs) := by
  induction cs with
  | nil => exact h
  | cons c cs ih => exact .behind c ih

theorem append_right (h : Edit as bs) (cs : List Char) : Edit (as ++ cs) (bs ++ cs) := by
  induction h with
  | insertion c _ => exact .insertion c _
  | deletion c _ => exact .deletion c _
  | substitution c d _ => exact .substitution c d _
  | behind c _ ih => exact .behind c ih

theorem reverse (h : Edit as bs) : Edit as.reverse bs.reverse := by
  induction h with
  | insertion c cs => simpa using (Edit.insertion c []).append_left cs.reverse
  | deletion c cs => simpa using (Edit.deletion c []).append_left cs.reverse
  | substitution c d cs => simpa using (Edit.substitution c d []).append_left cs.reverse
  | behind c _ ih => simpa using ih.append_right [c]

/-- An edit changes the length by one at most. -/
theorem length_le (h : Edit as bs) : bs.length ≤ as.length + 1 := by
  induction h with
  | insertion | substitution => simp
  | deletion => simp; omega
  | behind c _ ih => simpa using ih

end Edit

namespace Edits

theorem trans (h : Edits m as bs) (h' : Edits n bs cs) : Edits (m + n) as cs := by
  induction h' with
  | nothing => exact h
  | step _ hedit ih => exact (ih h).step hedit

theorem single (h : Edit as bs) : Edits 1 as bs := (nothing as).step h

theorem symm (h : Edits n as bs) : Edits n bs as := by
  induction h with
  | nothing => exact .nothing _
  | step _ hedit ih => simpa [Nat.add_comm] using (single hedit.symm).trans ih

/-- What edits do to a part of a text they can do within the text. -/
theorem map {f : List Char → List Char} (hf : ∀ {as bs}, Edit as bs → Edit (f as) (f bs))
    (h : Edits n as bs) : Edits n (f as) (f bs) := by
  induction h with
  | nothing => exact .nothing _
  | step _ hedit ih => exact ih.step (hf hedit)

theorem length_le (h : Edits n as bs) : bs.length ≤ as.length + n := by
  induction h with
  | nothing => simp
  | step _ hedit ih =>
      have hlength := hedit.length_le
      omega

theorem eq_of_zero (h : Edits 0 as bs) : as = bs := by
  cases h
  rfl

/-- Of two ways, the shorter one may be taken. -/
theorem min (h : Edits m as bs) (h' : Edits n as bs) : Edits (min m n) as bs := by
  rcases Nat.le_total m n with hle | hle
  · rwa [Nat.min_eq_left hle]
  · rwa [Nat.min_eq_right hle]

/-- All characters can be put in, one by one. -/
theorem insertions (cs : List Char) : Edits cs.length [] cs := by
  induction cs with
  | nil => exact .nothing []
  | cons c cs ih => exact ih.step (.insertion c cs)

end Edits

/-! ## The distance by recursion -/

/-- What it costs to have one character in place of another one. -/
def cost (c d : Char) : Nat := if c = d then 0 else 1

/-- The edit distance by the first characters: the first one of either text is edited away, or they are
put in place of each other. -/
def editDistance : List Char → List Char → Nat
  | [], bs => bs.length
  | _ :: as, [] => as.length + 1
  | a :: as, b :: bs =>
    min (min (editDistance as (b :: bs) + 1) (editDistance (a :: as) bs + 1))
      (editDistance as bs + cost a b)
termination_by as bs => as.length + bs.length

@[simp] theorem editDistance_nil_left (bs : List Char) : editDistance [] bs = bs.length := by
  simp [editDistance]

@[simp] theorem editDistance_nil_right (as : List Char) : editDistance as [] = as.length := by
  cases as <;> simp [editDistance]

theorem editDistance_cons_cons (a b : Char) (as bs : List Char) :
    editDistance (a :: as) (b :: bs) =
      min (min (editDistance as (b :: bs) + 1) (editDistance (a :: as) bs + 1))
        (editDistance as bs + cost a b) := by
  rw [editDistance]

theorem cost_le_one (c d : Char) : cost c d ≤ 1 := by
  unfold cost
  split <;> omega

/-- The distance can be covered. -/
theorem edits_editDistance (as bs : List Char) : Edits (editDistance as bs) as bs := by
  induction as, bs using editDistance.induct with
  | case1 bs => simpa using Edits.insertions bs
  | case2 a as => simpa using (Edits.insertions (a :: as)).symm
  | case3 a as b bs hdelete hinsert hreplace =>
      have hdeletion : Edits (editDistance as (b :: bs) + 1) (a :: as) (b :: bs) := by
        simpa [Nat.add_comm] using (Edits.single (.deletion a as)).trans hdelete
      have hinsertion : Edits (editDistance (a :: as) bs + 1) (a :: as) (b :: bs) :=
        hinsert.step (.insertion b bs)
      have hboth : Edits (editDistance as bs + cost a b) (a :: as) (b :: bs) := by
        have hbehind : Edits (editDistance as bs) (a :: as) (a :: bs) := hreplace.map (.behind a)
        unfold cost
        split
        · next heq => simpa [heq] using hbehind
        · exact hbehind.step (.substitution a b bs)
      rw [editDistance_cons_cons]
      exact (hdeletion.min hinsertion).min hboth

theorem editDistance_self (cs : List Char) : editDistance cs cs = 0 := by
  induction cs with
  | nil => simp
  | cons c cs ih => simp [editDistance_cons_cons, ih, cost]

theorem editDistance_cons_le (a : Char) (as bs : List Char) :
    editDistance (a :: as) bs ≤ editDistance as bs + 1 := by
  cases bs with
  | nil => simp
  | cons b bs =>
      rw [editDistance_cons_cons]
      omega

/-- One more edit makes the distance greater by one at most. -/
theorem editDistance_le_of_edit (h : Edit bs cs) (as : List Char) :
    editDistance as cs ≤ editDistance as bs + 1 := by
  -- the edit is brought to the front; there, the cases of the recursion are compared one by one
  induction h generalizing as with
  | insertion c bs =>
      cases as with
      | nil => simp
      | cons a as =>
          rw [editDistance_cons_cons]
          omega
  | deletion c bs =>
      induction as with
      | nil => simp; omega
      | cons a as ih =>
          have hfront := editDistance_cons_le a as bs
          rw [editDistance_cons_cons]
          omega
  | substitution c d bs =>
      induction as with
      | nil => simp
      | cons a as ih =>
          have hone := cost_le_one a d
          rw [editDistance_cons_cons, editDistance_cons_cons]
          omega
  | @behind c bs cs _ hbehind =>
      induction as with
      | nil => simpa using hbehind []
      | cons a as ih =>
          have hboth := hbehind as
          have hinsertion := hbehind (a :: as)
          rw [editDistance_cons_cons, editDistance_cons_cons]
          omega

theorem editDistance_le_of_edits (h : Edits n as bs) : editDistance as bs ≤ n := by
  induction h with
  | nothing cs => simp [editDistance_self]
  | @step _ as _ _ _ hedit ih =>
      have hmore := editDistance_le_of_edit hedit as
      omega

/-- The recursion finds the least number of edits. -/
theorem isLeast_editDistance (as bs : List Char) :
    IsLeast {n | Edits n as bs} (editDistance as bs) :=
  ⟨edits_editDistance as bs, fun _ h => editDistance_le_of_edits h⟩

theorem editDistance_comm (as bs : List Char) : editDistance as bs = editDistance bs as := by
  have hle : ∀ as bs, editDistance as bs ≤ editDistance bs as :=
    fun as bs => editDistance_le_of_edits (edits_editDistance bs as).symm
  exact Nat.le_antisymm (hle as bs) (hle bs as)

theorem editDistance_reverse (as bs : List Char) :
    editDistance as.reverse bs.reverse = editDistance as bs := by
  have hle : ∀ as bs, editDistance as.reverse bs.reverse ≤ editDistance as bs :=
    fun as bs => editDistance_le_of_edits ((edits_editDistance as bs).map .reverse)
  apply Nat.le_antisymm (hle as bs)
  simpa using hle as.reverse bs.reverse

theorem editDistance_triangle (as bs cs : List Char) :
    editDistance as cs ≤ editDistance as bs + editDistance bs cs :=
  editDistance_le_of_edits ((edits_editDistance as bs).trans (edits_editDistance bs cs))

theorem editDistance_eq_zero_iff : editDistance as bs = 0 ↔ as = bs := by
  constructor
  · intro h
    apply Edits.eq_of_zero
    rw [← h]
    exact edits_editDistance as bs
  · rintro rfl
    exact editDistance_self as

theorem length_le_editDistance (as bs : List Char) :
    bs.length ≤ as.length + editDistance as bs :=
  (edits_editDistance as bs).length_le

theorem editDistance_le_length (as bs : List Char) :
    editDistance as bs ≤ max as.length bs.length := by
  induction as, bs using editDistance.induct with
  | case1 bs => simp
  | case2 a as => simp
  | case3 a as b bs _ _ hreplace =>
      have hone := cost_le_one a b
      rw [editDistance_cons_cons]
      simp only [List.length_cons]
      omega

/-- The recursion may just as well go by the last characters. -/
theorem editDistance_concat_concat (as bs : List Char) (a b : Char) :
    editDistance (as ++ [a]) (bs ++ [b]) =
      min (min (editDistance as (bs ++ [b]) + 1) (editDistance (as ++ [a]) bs + 1))
        (editDistance as bs + cost a b) := by
  have hlast := editDistance_cons_cons a b as.reverse bs.reverse
  have hconcat : ∀ (c : Char) (cs : List Char), c :: cs.reverse = (cs ++ [c]).reverse := by simp
  simpa only [hconcat, editDistance_reverse] using hlast

/-! ## The table -/

/-- The entries of a row behind the one for `bs`: what `f` gives for longer and longer texts. -/
def entriesFrom (f : List Char → Nat) (bs : List Char) : List Char → List Nat
  | [] => []
  | d :: ds => f (bs ++ [d]) :: entriesFrom f (bs ++ [d]) ds

/-- The row for a beginning of the one text: its distances to all beginnings of the other one. -/
def rowOf (as ds : List Char) : List Nat :=
  editDistance as [] :: entriesFrom (editDistance as) [] ds

theorem distanceRowFrom_entriesFrom (c : Char) (as bs ds : List Char) :
    distanceRowFrom c (editDistance (as ++ [c]) bs) (editDistance as bs) ds
      (entriesFrom (editDistance as) bs ds) = entriesFrom (editDistance (as ++ [c])) bs ds := by
  induction ds generalizing bs with
  | nil => rfl
  | cons d ds ih =>
      -- the three neighbours of an entry are the three cases of the recursion
      have hhere := editDistance_concat_concat as bs c d
      rw [cost] at hhere
      rw [entriesFrom, entriesFrom, distanceRowFrom, ← hhere, ih]

theorem distanceRow_rowOf (c : Char) (as ds : List Char) :
    distanceRow c (as.length + 1) ds (rowOf as ds) = rowOf (as ++ [c]) ds := by
  have hfirst : as.length + 1 = editDistance (as ++ [c]) [] := by simp
  rw [rowOf, distanceRow, hfirst, distanceRowFrom_entriesFrom, rowOf]

/-- Row after row, the table holds the distances of longer and longer beginnings. -/
theorem distanceRows_rowOf (as cs ds : List Char) :
    distanceRows ds as.length (rowOf as ds) cs = rowOf (as ++ cs) ds := by
  induction cs generalizing as with
  | nil => simp [distanceRows]
  | cons c cs ih =>
      have hnext := ih (as ++ [c])
      rw [List.length_append, List.length_singleton] at hnext
      rw [distanceRows, distanceRow_rowOf, hnext, List.append_assoc, List.singleton_append]

theorem entriesFrom_length (bs ds : List Char) :
    entriesFrom List.length bs ds = List.range' (bs.length + 1) ds.length := by
  induction ds generalizing bs with
  | nil => rfl
  | cons d ds ih => simp [entriesFrom, ih, List.range'_succ]

theorem range_eq_rowOf (ds : List Char) : List.range (ds.length + 1) = rowOf [] ds := by
  have hlength : editDistance [] = List.length := funext editDistance_nil_left
  rw [rowOf, hlength, entriesFrom_length, List.range_eq_range', List.range'_succ]
  rfl

theorem getLastD_entriesFrom (f : List Char → Nat) (bs ds : List Char) :
    (f bs :: entriesFrom f bs ds).getLastD 0 = f (bs ++ ds) := by
  induction ds generalizing bs with
  | nil => simp [entriesFrom]
  | cons d ds ih => simpa [entriesFrom] using ih (bs ++ [d])

theorem distance_eq_editDistance (a b : String) :
    distance a b = editDistance a.toList b.toList := by
  have htable : ∀ long short : List Char,
      (distanceRows short 0 (List.range (short.length + 1)) long).getLastD 0 =
        editDistance long short := by
    intro long short
    have hrows := distanceRows_rowOf [] long short
    rw [List.length_nil, List.nil_append] at hrows
    rw [range_eq_rowOf, hrows, rowOf, getLastD_entriesFrom, List.nil_append]
  unfold distance
  simp only [htable]
  split
  · exact editDistance_comm b.toList a.toList
  · rfl

/-! ## The distance of texts -/

/-- The distance of two texts is the least number of edits that turn one into the other, as the recursion
tells it; so it is symmetric, zero for equal texts only, no longer than a way round, and between the
difference of the lengths and the greater one of them. -/
theorem distance_exact (a b : String) :
    IsLeast {n | Edits n a.toList b.toList} (distance a b) ∧
      distance a b = editDistance a.toList b.toList ∧
      distance a b = distance b a ∧
      (distance a b = 0 ↔ a = b) ∧
      (∀ c, distance a c ≤ distance a b + distance b c) ∧
      max a.length b.length - min a.length b.length ≤ distance a b ∧
      distance a b ≤ max a.length b.length := by
  simp only [distance_eq_editDistance, ← String.length_toList]
  refine ⟨isLeast_editDistance _ _, trivial, editDistance_comm _ _, ?_,
    fun c => editDistance_triangle _ _ _, ?_, editDistance_le_length _ _⟩
  · rw [editDistance_eq_zero_iff, String.toList_inj]
  · have hle := length_le_editDistance a.toList b.toList
    have hge := length_le_editDistance b.toList a.toList
    rw [editDistance_comm] at hge
    omega

example : distance "kitten" "sitting" = 3 := by decide

end Conformity.Text
