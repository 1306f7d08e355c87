import Conformity.Proofs.Console.Folding
import Conformity.Proofs.Console.Plain

/-!
# Lines and cells on a terminal

A styled text loses its tags and the characters that a terminal acts upon, it is taken apart at its line
ends, and its tabs are set. Its lines are then those that were written exactly if the text is plain
(`linesOf_eq_ok_iff`, `linesOf_styled_eq_ok_iff`).

A grid can be shown if all of its texts can (`Grid.exists_lines_iff`). A part of a folded line that is not
wider than the column of its cell stands in a line of the grid, up to blanks at its end
(`Grid.exists_line_of_cell`).
-/

namespace Conformity.Console

open Text (split splitFrom trimEnd width)

variable {cs ds line style text : List Char}

/-! ## Lines -/

theorem flatten_split (c : Char) (cs : List Char) : (split c cs).flatten = cs.filter (· != c) := by
  have hfrom : ∀ part, (splitFrom c part cs).flatten = part.reverse ++ cs.filter (· != c) := by
    induction cs with
    | nil => exact fun _ => rfl
    | cons d cs ih =>
        intro part
        rw [splitFrom, List.filter_cons, bne]
        cases d == c with
        | true => exact congrArg (part.reverse ++ ·) (ih [])
        | false => exact (ih (d :: part)).trans (by simp)
  exact hfrom []

theorem withoutTabs_eq_self (h : '\t' ∉ cs) (at_ : Nat) : withoutTabs at_ cs = cs := by
  induction cs generalizing at_ with
  | nil => rfl
  | cons c cs ih =>
      rw [List.mem_cons, not_or] at h
      rw [withoutTabs, if_neg (fun hc => h.1 (eq_of_beq hc).symm), ih h.2]

/-- No tab is left, and spaces stand for them. -/
theorem mem_withoutTabs {c : Char} {at_ : Nat} (h : c ∈ withoutTabs at_ cs) :
    c ≠ '\t' ∧ (c = ' ' ∨ c ∈ cs) := by
  induction cs generalizing at_ with
  | nil => cases h
  | cons d cs ih =>
      rw [withoutTabs] at h
      split at h
      · rcases List.mem_append.mp h with hblank | hrest
        · rw [List.eq_of_mem_replicate hblank]
          exact ⟨by decide, .inl rfl⟩
        · exact ⟨(ih hrest).1, (ih hrest).2.imp_right (List.mem_cons_of_mem d)⟩
      · next hd =>
        rcases List.mem_cons.mp h with rfl | hrest
        · exact ⟨by simpa using hd, .inr List.mem_cons_self⟩
        · exact ⟨(ih hrest).1, (ih hrest).2.imp_right (List.mem_cons_of_mem d)⟩

theorem count_withoutTabs {c : Char} (hspace : c ≠ ' ') (htab : c ≠ '\t') (at_ : Nat) (cs : List Char) :
    (withoutTabs at_ cs).count c = cs.count c := by
  induction cs generalizing at_ with
  | nil => rfl
  | cons d cs ih =>
      rw [withoutTabs]
      split
      · next hd =>
        have hd : d = '\t' := eq_of_beq hd
        simp [ih, hd, List.count_replicate, hspace.symm, htab.symm]
      · rw [List.count_cons, List.count_cons, ih]

theorem count_flatten_withoutTabs {c : Char} (hspace : c ≠ ' ') (htab : c ≠ '\t')
    (lines : List (List Char)) :
    (lines.map (withoutTabs 0)).flatten.count c = lines.flatten.count c := by
  induction lines with
  | nil => rfl
  | cons line lines ih =>
      rw [List.map_cons, List.flatten_cons, List.flatten_cons, List.count_append, List.count_append, ih,
        count_withoutTabs hspace htab]

/-- A character that is shown as it is: no tab, and none that a terminal acts upon. -/
def IsSteady (c : Char) : Prop := isControl c = false ∧ c ≠ '\t'

/-- Nothing in a text has a meaning for the terminal. -/
structure IsPlain (cs : List Char) : Prop extends IsUnmarked cs where
  steady : ∀ c ∈ cs, IsSteady c

instance (c : Char) : Decidable (IsSteady c) := inferInstanceAs (Decidable (_ ∧ _))

instance (cs : List Char) : Decidable (IsPlain cs) :=
  decidable_of_iff (IsUnmarked cs ∧ cs.all fun c => decide (IsSteady c))
    (by
      rw [List.all_eq_true]
      simp only [decide_eq_true_eq]
      exact ⟨fun ⟨hunmarked, hsteady⟩ => ⟨hunmarked, hsteady⟩, fun h => ⟨h.toIsUnmarked, h.steady⟩⟩)

/-- The lines that a text without tags has on the terminal before they are folded. -/
def laidOut (cs : List Char) : List (List Char) :=
  (split '\n' (cs.filter fun c => !isControl c)).map (withoutTabs 0)

/-- The lines that a styled text has on the terminal before they are folded. -/
def linesOf (s : String) : Except TagFault (List (List Char)) :=
  (seen s).map fun cs => (split '\n' cs).map (withoutTabs 0)

/-- Can a text be shown? -/
def IsReadable (s : String) : Prop := ∃ cs, seen s = .ok cs

theorem isReadable_iff {s : String} : IsReadable s ↔ ∃ lines, linesOf s = .ok lines := by
  unfold IsReadable linesOf
  cases seen s with
  | error e => simp [Except.map]
  | ok cs => exact iff_of_true ⟨cs, rfl⟩ ⟨_, rfl⟩

theorem isReadable_of_linesOf {s : String} {lines : List (List Char)} (h : linesOf s = .ok lines) :
    IsReadable s := isReadable_iff.mpr ⟨lines, h⟩

theorem linesOf_eq (s : String) :
    linesOf s = (withoutTags [] (piecesFrom 0 0 s.toList)).map laidOut := by
  unfold linesOf seen
  cases withoutTags [] (piecesFrom 0 0 s.toList) <;> rfl

theorem mem_of_mem_split {c d : Char} (h : line ∈ split c cs) (hd : d ∈ line) : d ∈ cs := by
  have hflatten : d ∈ (split c cs).flatten := List.mem_flatten.mpr ⟨line, h, hd⟩
  rw [flatten_split] at hflatten
  exact (List.mem_filter.mp hflatten).1

theorem laidOut_of_steady (h : ∀ c ∈ cs, IsSteady c) : laidOut cs = split '\n' cs := by
  have hkept : (cs.filter fun c => !isControl c) = cs :=
    List.filter_eq_self.mpr fun c hc => by rw [(h c hc).1]; rfl
  have hlines : ∀ line ∈ split '\n' cs, withoutTabs 0 line = line := fun line hline =>
    withoutTabs_eq_self (fun htab => (h _ (mem_of_mem_split hline htab)).2 rfl) 0
  unfold laidOut
  rw [hkept, List.map_congr_left hlines, List.map_id']

/-- Where the lines of one text are laid out as those of another one are written, this is steady, and has
no more brackets and backslashes than the first. -/
theorem of_laidOut_eq (h : laidOut cs = split '\n' ds) :
    (∀ c ∈ ds, IsSteady c) ∧ ∀ c, c ≠ '\n' → c ≠ ' ' → c ≠ '\t' → ds.count c ≤ cs.count c := by
  have hflatten : (laidOut cs).flatten = ds.filter (· != '\n') := by rw [h, flatten_split]
  constructor
  · intro c hc
    by_cases hnewline : c = '\n'
    · rw [hnewline]
      exact ⟨by decide, by decide⟩
    · have hmem : c ∈ (laidOut cs).flatten := by
        rw [hflatten]
        exact List.mem_filter.mpr ⟨hc, by simpa using hnewline⟩
      obtain ⟨_, hline, hc⟩ := List.mem_flatten.mp hmem
      obtain ⟨line, hbefore, rfl⟩ := List.mem_map.mp hline
      obtain ⟨htab, rfl | hc⟩ := mem_withoutTabs hc
      · exact ⟨by decide, htab⟩
      · have hkept := (List.mem_filter.mp (mem_of_mem_split hbefore hc)).2
        exact ⟨by simpa using hkept, htab⟩
  · intro c hnewline hspace htab
    have hcount := congrArg (List.count c) hflatten
    unfold laidOut at hcount
    rw [count_flatten_withoutTabs hspace htab, flatten_split,
      List.count_filter (p := fun d => d != '\n') (l := ds) (by simpa using hnewline)] at hcount
    rw [← hcount]
    exact (List.filter_sublist.trans List.filter_sublist).count_le c

/-- Exactly a plain text has its own lines. -/
theorem linesOf_eq_ok_iff (s : String) :
    linesOf s = .ok (split '\n' s.toList) ↔ IsPlain s.toList := by
  rw [linesOf_eq, map_eq_ok]
  constructor
  · rintro ⟨cs, hcs, hlines⟩
    obtain ⟨hsteady, hcount⟩ := of_laidOut_eq hlines
    exact ⟨isUnmarked_of_withoutTags hcs (hcount '[' (by decide) (by decide) (by decide))
      (hcount '\\' (by decide) (by decide) (by decide)), hsteady⟩
  · rintro ⟨hunmarked, hsteady⟩
    exact ⟨s.toList, withoutTags_of_isUnmarked hunmarked 0, laidOut_of_steady hsteady⟩

theorem seen_eq_ok {s : String} (h : IsPlain s.toList) : seen s = .ok s.toList := by
  have hkept : (s.toList.filter fun c => !isControl c) = s.toList :=
    List.filter_eq_self.mpr fun c hc => by rw [(h.steady c hc).1]; rfl
  unfold seen
  rw [withoutTags_of_isUnmarked h.toIsUnmarked]
  exact congrArg Except.ok hkept

/-- A text in a style and what follows it have their own lines exactly if both are plain, and the text
does not end with a backslash. -/
theorem linesOf_styled_eq_ok_iff (hstyle : IsStyle style) {s : String} {rest : List Char}
    (hs : s.toList = styledText style text rest) :
    linesOf s = .ok (split '\n' (text ++ rest)) ↔
      (IsPlain text ∧ ¬ ['\\'] <:+ text) ∧ IsPlain rest := by
  rw [linesOf_eq, hs, map_eq_ok]
  constructor
  · rintro ⟨cs, hcs, hlines⟩
    obtain ⟨hsteady, hcount⟩ := of_laidOut_eq hlines
    obtain ⟨⟨htext, hend⟩, hrest⟩ := isUnmarked_of_styledText hstyle hcs
      (hcount '[' (by decide) (by decide) (by decide))
      (hcount '\\' (by decide) (by decide) (by decide))
    rw [List.forall_mem_append] at hsteady
    exact ⟨⟨⟨htext, hsteady.1⟩, hend⟩, ⟨hrest, hsteady.2⟩⟩
  · rintro ⟨⟨htext, hend⟩, hrest⟩
    refine ⟨text ++ rest,
      withoutTags_styledText hstyle hend htext.toIsUnmarked hrest.toIsUnmarked, laidOut_of_steady ?_⟩
    exact List.forall_mem_append.mpr ⟨htext.steady, hrest.steady⟩

/-! ## Cells -/

theorem infix_intercalate {α : Type} {x : List α} {xs : List (List α)} (sep : List α) (h : x ∈ xs) :
    x <:+: sep.intercalate xs := by
  induction xs with
  | nil => cases h
  | cons y xs ih =>
      cases xs with
      | nil =>
          rw [List.mem_singleton] at h
          rw [h, List.intercalate_singleton]
      | cons z xs =>
          rw [List.intercalate_cons_cons]
          rcases List.mem_cons.mp h with rfl | hmem
          · exact ⟨[], sep ++ sep.intercalate (z :: xs), by simp⟩
          · exact (ih hmem).trans (List.suffix_append ..).isInfix

theorem infix_barred {x : List Char} {xs : List (List Char)} (bar : Char) (h : x ∈ xs) :
    x <:+: bar :: [bar].intercalate xs ++ [bar] := by
  obtain ⟨before, after, hall⟩ := infix_intercalate [bar] h
  exact ⟨bar :: before, after ++ [bar], by rw [← hall]; simp⟩

theorem le_foldl_max {n start : Nat} {ns : List Nat} (h : n ≤ start ∨ n ∈ ns) :
    n ≤ ns.foldl max start := by
  induction ns generalizing start with
  | nil => exact h.resolve_right List.not_mem_nil
  | cons m ns ih =>
      refine ih ?_
      rcases h with hstart | hmem
      · exact .inl (hstart.trans (Nat.le_max_left ..))
      · rcases List.mem_cons.mp hmem with rfl | hmem
        · exact .inl (Nat.le_max_right ..)
        · exact .inr hmem

namespace Grid

variable {g : Grid} {right : Bool} {w : Nat} {ws : List Nat} {t part : List Char}

/-- Can all texts of a grid be shown? -/
structure AllReadable (g : Grid) : Prop where
  title : IsReadable g.title
  columns : ∀ c ∈ g.columns, IsReadable c.name
  rows : ∀ row ∈ g.rows, ∀ text ∈ row, IsReadable text

theorem exists_lines_iff : (∃ ls, g.lines = .ok ls) ↔ g.AllReadable := by
  have hcells : ∀ row : List String, (∃ cells, row.mapM seen = .ok cells) ↔ ∀ text ∈ row, IsReadable text :=
    fun row => exists_mapM_eq_ok_iff
  unfold lines
  rw [exists_bind_eq_ok_iff fun title => exists_bind_eq_ok_iff fun header =>
    exists_bind_eq_ok_iff (P := True) fun rows => iff_of_true ⟨_, rfl⟩ trivial]
  rw [exists_mapM_eq_ok_iff, exists_mapM_eq_ok_iff, and_true]
  simp only [hcells]
  exact ⟨fun ⟨htitle, hcolumns, hrows⟩ => ⟨htitle, hcolumns, hrows⟩,
    fun h => ⟨h.title, h.columns, h.rows⟩⟩

/-- The widths of the columns of a grid. -/
def widths (g : Grid) : Except TagFault (List Nat) := do
  let header ← g.columns.mapM fun c => seen c.name
  let rows ← g.rows.mapM fun row => row.mapM seen
  return fitted (naturalWidths (transposed g.columns.length (header :: rows)))

theorem length_reduceGo (most left count : Nat) (shares : List (Nat × Bool)) :
    (reduce.go most left count shares).length = shares.length := by
  induction shares generalizing left count with
  | nil => rfl
  | cons share shares ih =>
      obtain ⟨w, marked⟩ := share
      cases marked with
      | false => exact congrArg (· + 1) (ih left count)
      | true => exact congrArg (· + 1) (ih _ (count - 1))

theorem length_reduce (excess most : Nat) (shares : List (Nat × Bool)) :
    (reduce excess most shares).length = shares.length := length_reduceGo ..

theorem length_collapse (limit fuel : Nat) (ws : List Nat) :
    (collapse limit fuel ws).length = ws.length := by
  induction fuel generalizing ws with
  | zero => rfl
  | succ fuel ih =>
      rw [collapse]
      split
      · rfl
      · rw [ih, length_reduce, List.length_map]

/-- To fit columns into the terminal leaves none out. -/
theorem length_fitted (ws : List Nat) : (fitted ws).length = ws.length := by
  unfold fitted
  dsimp only
  split
  · rfl
  · split
    · exact length_collapse ..
    · rw [length_reduce, List.length_map, length_collapse]

theorem length_of_widths (h : g.widths = .ok ws) : ws.length = g.columns.length := by
  obtain ⟨header, -, h⟩ := bind_eq_ok.mp h
  obtain ⟨rows, -, h⟩ := bind_eq_ok.mp h
  rw [← Except.ok.inj h, length_fitted, naturalWidths, transposed, List.length_map, List.length_map,
    List.length_range]

/-- A grid that can be shown has widths. -/
theorem exists_widths {ls : List (List Char)} (h : g.lines = .ok ls) : ∃ ws, g.widths = .ok ws := by
  obtain ⟨title, -, h⟩ := bind_eq_ok.mp h
  obtain ⟨header, hheader, h⟩ := bind_eq_ok.mp h
  obtain ⟨rows, hrows, -⟩ := bind_eq_ok.mp h
  exact ⟨_, bind_eq_ok.mpr ⟨header, hheader, bind_eq_ok.mpr ⟨rows, hrows, rfl⟩⟩⟩

theorem infix_filled (right : Bool) (h : width (trimExcess w t) ≤ w) :
    trimEnd t <:+: filled right w (trimExcess w t) := by
  obtain ⟨kept, lost, ht, htrimmed, hblank⟩ := exists_trimExcess w t
  rw [List.forall_mem_append] at hblank
  unfold filled
  dsimp only
  cases right with
  | true =>
      have htrimEnd : trimEnd (trimExcess w t) = trimEnd t := by
        rw [htrimmed, trimEnd_append_of_blank _ hblank.1]
        exact List.rdropWhile_idempotent Text.isBlank t
      have hshort : width (trimEnd t) ≤ w := by
        rw [← htrimEnd]
        exact (width_trimEnd_le _).trans h
      rw [if_pos rfl, if_pos rfl, htrimEnd, if_neg (Nat.not_lt.mpr hshort)]
      exact (List.suffix_append ..).isInfix
  | false =>
      have hwithin : trimEnd t <:+: trimExcess w t := by
        rw [htrimmed]
        exact (List.prefix_append ..).isInfix
      rw [if_neg Bool.false_ne_true, if_neg Bool.false_ne_true, if_neg (Nat.not_lt.mpr h)]
      exact hwithin.trans (List.prefix_append ..).isInfix

/-- The parts of a line in a cell of a column, which is folded between words. -/
def cellParts (w : Nat) (t : List Char) : List (List Char) := folded (w - 2) false t

/-- A part of a line that is not cut short stands in its cell. -/
theorem exists_mem_cellLines (right : Bool) (ht : t ∈ split '\n' text) (htab : '\t' ∉ t)
    (hpart : part ∈ cellParts w t) (h : width (trimExcess (w - 2) part) ≤ w - 2) :
    ∃ l ∈ cellLines right w text, trimEnd part <:+: l := by
  refine ⟨' ' :: filled right (w - 2) (trimExcess (w - 2) part) ++ [' '], ?_, ?_⟩
  · refine List.mem_flatMap.mpr ⟨t, ht, List.mem_map.mpr ⟨part, ?_, rfl⟩⟩
    rw [withoutTabs_eq_self htab]
    exact hpart
  · obtain ⟨before, after, hfilled⟩ := infix_filled right h
    exact ⟨' ' :: before, after ++ [' '], by rw [← hfilled]; simp⟩

/-- A line of a cell stands in a line of its row. -/
theorem exists_mem_rowLines {columns : List (Nat × Bool)} {row : List (List Char)} {j : Nat} (bar : Char)
    (hcolumn : columns[j]? = some (w, right)) (hrow : row[j]? = some text)
    (hpart : part ∈ cellLines right w text) : ∃ l ∈ rowLines bar columns row, part <:+: l := by
  obtain ⟨i, hi⟩ := List.mem_iff_getElem?.mp hpart
  unfold rowLines
  dsimp only
  generalize hcells : (columns.zip row).map _ = cells
  have hcell : cells[j]? = some (cellLines right w text) := by
    have hzip : (columns.zip row)[j]? = some ((w, right), text) :=
      List.getElem?_zip_eq_some.mpr ⟨hcolumn, hrow⟩
    rw [← hcells, List.getElem?_map, hzip]
    rfl
  have hheight : (cellLines right w text).length ≤ (cells.map List.length).foldl max 0 :=
    le_foldl_max (.inr (List.mem_map_of_mem (List.mem_of_getElem? hcell)))
  have hlength := (List.getElem?_eq_some_iff.mp hi).1
  refine ⟨_, List.mem_map.mpr ⟨i, List.mem_range.mpr (hlength.trans_le hheight), rfl⟩, ?_⟩
  have hmem : ((w, right), cellLines right w text) ∈ columns.zip cells :=
    List.mem_of_getElem? (List.getElem?_zip_eq_some.mpr ⟨hcolumn, hcell⟩)
  refine infix_barred bar (List.mem_map.mpr ⟨_, hmem, ?_⟩)
  dsimp only
  rw [hi]
  rfl

/-- A part of a line that is not too wide for its column stands in a line of the grid. -/
theorem exists_line_of_cell {ls : List (List Char)} {i j : Nat} {row : List String}
    {s : String} {column : Column} (hlines : g.lines = .ok ls) (hwidths : g.widths = .ok ws)
    (hrow : g.rows[i]? = some row) (hs : row[j]? = some s) (hcolumn : g.columns[j]? = some column)
    (hw : ws[j]? = some w) (hseen : seen s = .ok text) (ht : t ∈ split '\n' text) (htab : '\t' ∉ t)
    (hpart : part ∈ cellParts w t) (hfits : width (trimExcess (w - 2) part) ≤ w - 2) :
    ∃ l ∈ ls, trimEnd part <:+: l := by
  unfold lines at hlines
  obtain ⟨title, -, hlines⟩ := bind_eq_ok.mp hlines
  obtain ⟨header, hheader, hlines⟩ := bind_eq_ok.mp hlines
  obtain ⟨rows, hrows, hlines⟩ := bind_eq_ok.mp hlines
  obtain ⟨cells, hcells, hcellsRow⟩ := exists_getElem?_of_mapM hrows hrow
  obtain ⟨text', htext', hseen'⟩ := exists_getElem?_of_mapM hcellsRow hs
  obtain rfl : text = text' := Except.ok.inj (hseen.symm.trans hseen')
  have hall : fitted (naturalWidths (transposed g.columns.length (header :: rows))) = ws := by
    unfold widths at hwidths
    rw [hheader, hrows] at hwidths
    exact Except.ok.inj hwidths
  cases hlines
  rw [hall]
  have hcolumns : (ws.zip (g.columns.map Column.right))[j]? = some (w, column.right) :=
    List.getElem?_zip_eq_some.mpr ⟨hw, by rw [List.getElem?_map, hcolumn]; rfl⟩
  obtain ⟨cell, hcell, hwithin⟩ := exists_mem_cellLines column.right ht htab hpart hfits
  obtain ⟨l, hl, hwithin'⟩ := exists_mem_rowLines '│' hcolumns htext' hcell
  refine ⟨l, ?_, hwithin.trans hwithin'⟩
  have hmem : l ∈ rows.flatMap (rowLines '│' (ws.zip (g.columns.map Column.right))) :=
    List.mem_flatMap.mpr ⟨cells, List.mem_of_getElem? hcells, hl⟩
  simp only [List.mem_cons, List.mem_append]
  exact .inl (.inr (.inr hmem))

end Grid

end Conformity.Console
