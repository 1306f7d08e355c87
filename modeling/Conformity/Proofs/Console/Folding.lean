import Mathlib.Data.List.Forall2
import Conformity.Console.Grid
import Conformity.Proofs.Text.Trim

/-!
# Folded lines

A line that is too long is folded. Nothing of it is lost but blanks, and marks without a width, at the
end of a line, and each line then fits into the terminal (`wraps_wrapped`). A line that is not too long
stays as it is (`folded_eq_self`).
-/

namespace Conformity.Console

open Text (width charWidth isBlank trimEnd)

variable {cs ds line part word : List Char} {limit : Nat} {f : Folding}

/-! ## Widths -/

theorem charWidth_le_two (c : Char) : charWidth c ≤ 2 := by
  unfold charWidth
  split
  · split <;> omega
  · split
    · omega
    · split <;> omega

@[simp] theorem width_nil : width [] = 0 := rfl

@[simp] theorem width_cons (c : Char) (cs : List Char) : width (c :: cs) = charWidth c + width cs := rfl

@[simp] theorem width_append (cs ds : List Char) : width (cs ++ ds) = width cs + width ds := by
  induction cs with
  | nil => simp
  | cons c cs ih => simp [ih, Nat.add_assoc]

@[simp] theorem width_reverse (cs : List Char) : width cs.reverse = width cs := by
  induction cs with
  | nil => rfl
  | cons c cs ih => simp [ih, Nat.add_comm]

theorem width_le_of_mem {c : Char} (h : c ∈ cs) : charWidth c ≤ width cs := by
  induction cs with
  | nil => cases h
  | cons d cs ih =>
      rcases List.mem_cons.mp h with rfl | hmem
      · exact Nat.le_add_right ..
      · exact Nat.le_add_left_of_le (ih hmem)

/-- What is dropped at the end of a text is blank. -/
theorem exists_eq_trimEnd_append (cs : List Char) :
    ∃ blanks, cs = trimEnd cs ++ blanks ∧ blanks = (cs.reverse.takeWhile isBlank).reverse ∧
      ∀ c ∈ blanks, isBlank c := by
  refine ⟨_, ?_, rfl, fun c hc => ?_⟩
  · unfold trimEnd
    rw [← List.reverse_append, List.takeWhile_append_dropWhile, List.reverse_reverse]
  · exact List.all_eq_true.mp List.all_takeWhile c (List.mem_reverse.mp hc)

theorem trimEnd_append_of_blank (cs : List Char) (h : ∀ c ∈ ds, isBlank c) : trimEnd (cs ++ ds) = trimEnd cs := by
  unfold trimEnd
  rw [List.reverse_append, List.dropWhile_append_of_pos (by simpa using h)]

theorem width_trimEnd_le (cs : List Char) : width (trimEnd cs) ≤ width cs := by
  obtain ⟨blanks, hcs, -⟩ := exists_eq_trimEnd_append cs
  have hwidth := congrArg width hcs
  rw [width_append] at hwidth
  omega

theorem width_trimEnd_append_le (cs ds : List Char) :
    width (trimEnd (cs ++ ds)) ≤ width cs + width (trimEnd ds) := by
  obtain ⟨blanks, hds, -, hblanks⟩ := exists_eq_trimEnd_append ds
  have hall : trimEnd (cs ++ ds) = trimEnd (cs ++ trimEnd ds) := by
    rw [← trimEnd_append_of_blank (cs ++ trimEnd ds) hblanks, List.append_assoc, ← hds]
  rw [hall, ← width_append]
  exact width_trimEnd_le _

/-! ## Words and parts of words -/

theorem wordsFrom_ne_nil (h : word.all isBlank = false) (ended : Bool) (cs : List Char) :
    wordsFrom word ended cs ≠ [] := by
  induction cs generalizing word ended with
  | nil => simp [wordsFrom, h]
  | cons c cs ih =>
      rw [wordsFrom]
      split
      · exact ih (by simp [h]) _
      · split
        · exact List.cons_ne_nil _ _
        · exact ih (by simp [h]) _

/-- The words of a line make up the line, unless there is nothing but blanks. -/
theorem flatten_wordsFrom {ended : Bool} (h : wordsFrom word ended cs ≠ []) :
    (wordsFrom word ended cs).flatten = word.reverse ++ cs := by
  induction cs generalizing word ended with
  | nil =>
      rw [wordsFrom] at h ⊢
      split at h
      · exact absurd rfl h
      · next hword =>
        rw [if_neg hword]
        rfl
  | cons c cs ih =>
      have hfront : (c :: word).reverse ++ cs = word.reverse ++ c :: cs := by simp
      rw [wordsFrom] at h ⊢
      split at h
      · next hc =>
        rw [if_pos hc, ih h, hfront]
      · next hc =>
        rw [if_neg hc]
        split at h
        · next hended =>
          have hword : [c].all isBlank = false := by simpa using hc
          have hrest := ih (wordsFrom_ne_nil hword false cs)
          rw [if_pos hended, List.flatten_cons, hrest]
          rfl
        · next hended => rw [if_neg hended, ih h, hfront]

/-- A line without words is blank. -/
theorem isBlank_of_wordsFrom {ended : Bool} (h : wordsFrom word ended cs = []) :
    ∀ c ∈ cs, isBlank c := by
  induction cs generalizing word ended with
  | nil => nofun
  | cons c cs ih =>
      rw [wordsFrom] at h
      split at h
      · next hc => exact List.forall_mem_cons.mpr ⟨hc, ih h⟩
      · next hc =>
        split at h
        · cases h
        · exact absurd h (wordsFrom_ne_nil (by simp [hc]) false cs)

theorem flatten_chopFrom (limit : Nat) (part cs : List Char) :
    (chopFrom limit part cs).flatten = part.reverse ++ cs := by
  induction cs generalizing part with
  | nil => simp [chopFrom]
  | cons c cs ih =>
      rw [chopFrom]
      split
      · simp [ih]
      · simp [ih]

theorem width_le_of_mem_chopFrom (hlimit : 2 ≤ limit) (hpart : width part ≤ limit)
    (h : word ∈ chopFrom limit part cs) : width word ≤ limit := by
  induction cs generalizing part with
  | nil =>
      rw [chopFrom, List.mem_singleton] at h
      rw [h, width_reverse]
      exact hpart
  | cons c cs ih =>
      rw [chopFrom] at h
      split at h
      · rcases List.mem_cons.mp h with rfl | hrest
        · rw [width_reverse]
          exact hpart
        · have hc := charWidth_le_two c
          exact ih (by simp; omega) hrest
      · exact ih (by simp; omega) h

/-! ## Folding -/

namespace Folding

/-- The text of all lines. -/
def text (f : Folding) : List Char := f.lines.flatten

theorem text_eq (f : Folding) : f.text = f.done.reverse.flatten ++ f.line := by
  simp [text, lines]

/-- Each line has a width up to a limit, blanks at its end aside. -/
structure Fits (limit : Nat) (f : Folding) : Prop where
  lines : ∀ line ∈ f.line :: f.done, width (trimEnd line) ≤ limit
  used : f.used = width f.line

theorem text_begin (f : Folding) (word : List Char) : (f.begin word).text = f.text ++ word := by
  unfold begin
  split
  · next h =>
    rw [Bool.and_eq_true, List.isEmpty_iff, List.isEmpty_iff] at h
    simp [text_eq, h.1, h.2]
  · simp [text_eq]

theorem fits_begin (h : f.Fits limit) (hword : width (trimEnd word) ≤ limit) :
    (f.begin word).Fits limit := by
  unfold begin
  split
  · exact ⟨by simpa using hword, rfl⟩
  · exact ⟨List.forall_mem_cons.mpr ⟨hword, h.lines⟩, rfl⟩

theorem text_foldl_begin (f : Folding) (words : List (List Char)) :
    (words.foldl begin f).text = f.text ++ words.flatten := by
  induction words generalizing f with
  | nil => simp
  | cons word words ih => simp [ih, text_begin]

theorem fits_foldl_begin {words : List (List Char)} (h : f.Fits limit)
    (hwords : ∀ word ∈ words, width (trimEnd word) ≤ limit) : (words.foldl begin f).Fits limit := by
  induction words generalizing f with
  | nil => exact h
  | cons word words ih =>
      rw [List.forall_mem_cons] at hwords
      exact ih (fits_begin h hwords.1) hwords.2

theorem text_add (limit : Nat) (cut : Bool) (f : Folding) (word : List Char) :
    (f.add limit cut word).text = f.text ++ word := by
  unfold add
  dsimp only
  split
  · simp [text_eq]
  · split
    · rw [text_foldl_begin, flatten_chopFrom]
      rfl
    · exact text_begin f word

theorem fits_add (hlimit : 2 ≤ limit) (h : f.Fits limit) (word : List Char) :
    (f.add limit true word).Fits limit := by
  unfold add
  dsimp only
  split
  · next hroom =>
    have hline := width_trimEnd_append_le f.line word
    have hused := h.used
    have hfits : width (trimEnd (f.line ++ word)) ≤ limit := by omega
    refine ⟨List.forall_mem_cons.mpr ⟨hfits, (List.forall_mem_cons.mp h.lines).2⟩, ?_⟩
    rw [width_append, ← hused]
  · split
    · refine fits_foldl_begin h fun part hpart => ?_
      have hwidth := width_le_of_mem_chopFrom hlimit (by simp) hpart
      have htrim := width_trimEnd_le part
      omega
    · next hword => exact fits_begin h (by simpa using hword)

theorem text_foldl_add (limit : Nat) (cut : Bool) (f : Folding) (words : List (List Char)) :
    (words.foldl (add limit cut) f).text = f.text ++ words.flatten := by
  induction words generalizing f with
  | nil => simp
  | cons word words ih => simp [ih, text_add]

theorem fits_foldl_add (hlimit : 2 ≤ limit) (h : f.Fits limit) (words : List (List Char)) :
    (words.foldl (add limit true) f).Fits limit := by
  induction words generalizing f with
  | nil => exact h
  | cons word words ih => exact ih (fits_add hlimit h word)

end Folding

/-- To fold a line loses nothing. -/
theorem flatten_folded (limit : Nat) (cut : Bool) (line : List Char) :
    (folded limit cut line).flatten = line := by
  unfold folded
  split
  · simp
  · next hwords =>
    have htext := Folding.text_foldl_add limit cut {} (wordsFrom [] false line)
    rw [flatten_wordsFrom (by simpa using hwords)] at htext
    exact htext

theorem width_trimEnd_le_of_mem_folded (hlimit : 2 ≤ limit) (h : part ∈ folded limit true line) :
    width (trimEnd part) ≤ limit := by
  unfold folded at h
  split at h
  · next hwords =>
    have hblank : trimEnd line = [] := trimEnd_append_of_blank [] (isBlank_of_wordsFrom hwords)
    rw [List.mem_singleton] at h
    rw [h, hblank]
    exact Nat.zero_le limit
  · have hfits := Folding.fits_foldl_add (f := {}) hlimit ⟨by simp [trimEnd], rfl⟩ (wordsFrom [] false line)
    exact hfits.lines part (List.mem_reverse.mp h)

namespace Folding

theorem done_foldl_add {words : List (List Char)} (cut : Bool) (hdone : f.done = [])
    (hused : f.used = width f.line) (hwords : f.used + width words.flatten ≤ limit) :
    (words.foldl (add limit cut) f).done = [] := by
  induction words generalizing f with
  | nil => exact hdone
  | cons word words ih =>
      rw [List.flatten_cons, width_append] at hwords
      have hword := width_trimEnd_le word
      have hadd : f.add limit cut word =
          { f with line := f.line ++ word, used := f.used + width word } := by
        unfold add
        exact if_pos (by omega)
      rw [List.foldl_cons, hadd]
      refine ih hdone ?_ ?_
      · rw [width_append, ← hused]
      · dsimp only
        omega

end Folding

/-- A line that is not too long is not folded. -/
theorem folded_eq_self (cut : Bool) (h : width line ≤ limit) : folded limit cut line = [line] := by
  have htext := flatten_folded limit cut line
  unfold folded at htext ⊢
  split at htext
  · rfl
  · next hwords =>
    have hline : (wordsFrom [] false line).flatten = line :=
      flatten_wordsFrom (by simpa using hwords)
    have hroom : ({} : Folding).used + width (wordsFrom [] false line).flatten ≤ limit := by
      rw [hline]
      exact (Nat.zero_add (width line)).trans_le h
    have hdone := Folding.done_foldl_add cut rfl rfl hroom
    unfold Folding.lines at htext ⊢
    rw [hdone] at htext ⊢
    exact congrArg ([·]) (by simpa using htext)

/-! ## Cutting lines short -/

/-- Is a character to be seen? A blank is not, nor is a mark without a width. -/
def isVisible (c : Char) : Bool := !isBlank c && 0 < charWidth c

/-- A part of a line is the front of a piece of it, up to characters that are not to be seen. -/
def IsFrontOf (part piece : List Char) : Prop :=
  ∃ kept lost blanks, piece = kept ++ lost ∧ part = kept ++ List.replicate blanks ' ' ∧
    ∀ c ∈ lost, isVisible c = false

theorem not_isVisible_of_blank {c : Char} (h : isBlank c) : isVisible c = false := by
  rw [isVisible, h]
  rfl

theorem not_isVisible_of_width_zero (h : width (trimEnd cs) = 0) : ∀ c ∈ cs, isVisible c = false := by
  obtain ⟨blanks, hcs, -, hblanks⟩ := exists_eq_trimEnd_append cs
  rw [hcs]
  refine List.forall_mem_append.mpr ⟨fun c hc => ?_, fun c hc => not_isVisible_of_blank (hblanks c hc)⟩
  have hwidth := width_le_of_mem hc
  have hzero : charWidth c = 0 := by omega
  rw [isVisible, hzero]
  exact Bool.and_false _

theorem trimEnd_cons (c : Char) (cs : List Char) :
    trimEnd (c :: cs) = [] ∧ trimEnd cs = [] ∨ trimEnd (c :: cs) = c :: trimEnd cs := by
  unfold trimEnd
  rw [List.reverse_cons, List.dropWhile_append]
  split
  · next hempty =>
    rw [List.isEmpty_iff.mp hempty, List.dropWhile_cons]
    split
    · exact .inl ⟨rfl, rfl⟩
    · exact .inr rfl
  · exact .inr List.reverse_concat

theorem isFrontOf_front (h : width (trimEnd line) ≤ limit) : IsFrontOf (front limit line) line := by
  induction line generalizing limit with
  | nil => exact ⟨[], [], limit, rfl, rfl, nofun⟩
  | cons c cs ih =>
      have hcases := trimEnd_cons c cs
      rw [front]
      split
      · next hc =>
        split
        · next hlimit =>
          exact ⟨[], c :: cs, 0, rfl, rfl, not_isVisible_of_width_zero (by omega)⟩
        · have hrest : width (trimEnd cs) ≤ limit - charWidth c := by
            rcases hcases with ⟨-, hnil⟩ | hcons
            · rw [hnil]
              exact Nat.zero_le _
            · rw [hcons, width_cons] at h
              omega
          obtain ⟨kept, lost, blanks, hpiece, hpart, hlost⟩ := ih hrest
          exact ⟨c :: kept, lost, blanks, by rw [hpiece]; rfl, by rw [hpart]; rfl, hlost⟩
      · next hc =>
        have hblank : trimEnd (c :: cs) = [] := by
          refine (hcases.resolve_right fun hcons => ?_).1
          rw [hcons, width_cons] at h
          omega
        exact ⟨[], c :: cs, limit, rfl, rfl, not_isVisible_of_width_zero (by rw [hblank]; rfl)⟩

/-- A line that is too long loses only blanks at its end. -/
theorem exists_trimExcess (limit : Nat) (line : List Char) :
    ∃ kept lost, line = trimEnd line ++ (kept ++ lost) ∧
      trimExcess limit line = trimEnd line ++ kept ∧ ∀ c ∈ kept ++ lost, isBlank c := by
  obtain ⟨blanks, hline, hblanks, hall⟩ := exists_eq_trimEnd_append line
  have hlength : (line.reverse.takeWhile isBlank).length = blanks.length := by
    rw [hblanks, List.length_reverse]
  have htake : trimExcess limit line =
      (trimEnd line ++ blanks).take (line.length - min blanks.length (line.length - limit)) := by
    unfold trimExcess
    rw [hlength, ← hline]
  have hsum := congrArg List.length hline
  rw [List.length_append] at hsum
  refine ⟨blanks.take (line.length - min blanks.length (line.length - limit) - (trimEnd line).length),
    blanks.drop (line.length - min blanks.length (line.length - limit) - (trimEnd line).length), ?_⟩
  rw [List.take_append_drop]
  refine ⟨hline, ?_, hall⟩
  rw [htake, List.take_append, List.take_of_length_le (by omega)]

/-! ## Lines of the terminal -/

/-- Parts of a line as it is shown: they are the fronts of pieces that make up the line, up to what is not
to be seen, and none is wider than the terminal. -/
structure Wraps (line : List Char) (parts : List (List Char)) : Prop where
  pieces : ∃ pieces, pieces.flatten = line ∧ List.Forall₂ IsFrontOf parts pieces
  fits : ∀ part ∈ parts, width part ≤ screenWidth

/-- A part of a line as the terminal shows it. -/
def shownPart (part : List Char) : List Char :=
  let part := trimExcess screenWidth part
  if screenWidth < width part then front screenWidth part else part

/-- A line as the lines of the terminal. -/
def wrapped (line : List Char) : List (List Char) := (folded screenWidth true line).map shownPart

theorem paragraph_eq (text : List Char) :
    paragraph text = ((Text.split '\n' text).map (withoutTabs 0)).flatMap wrapped := by
  rw [List.flatMap_map]
  rfl

@[simp] theorem width_blanks (n : Nat) : width (List.replicate n ' ') = n := by
  induction n with
  | zero => rfl
  | succ n ih =>
      have hspace : charWidth ' ' = 1 := rfl
      rw [List.replicate_succ, width_cons, ih, hspace, Nat.add_comm]

theorem width_front_le (limit : Nat) (line : List Char) : width (front limit line) ≤ limit := by
  induction line generalizing limit with
  | nil => simp [front]
  | cons c cs ih =>
      rw [front]
      split
      · next hc =>
        split
        · exact Nat.zero_le limit
        · have hrest := ih (limit - charWidth c)
          rw [width_cons]
          omega
      · simp

theorem isFrontOf_shownPart (h : width (trimEnd part) ≤ screenWidth) :
    IsFrontOf (shownPart part) part := by
  obtain ⟨kept, lost, hpart, htrimmed, hblank⟩ := exists_trimExcess screenWidth part
  rw [List.forall_mem_append] at hblank
  have hall : part = (trimEnd part ++ kept) ++ lost := by rw [List.append_assoc, ← hpart]
  have hlost : ∀ c ∈ lost, isVisible c = false := fun c hc => not_isVisible_of_blank (hblank.2 c hc)
  unfold shownPart
  dsimp only
  rw [htrimmed]
  split
  · have hwidth : width (trimEnd (trimEnd part ++ kept)) ≤ screenWidth := by
      rw [trimEnd_append_of_blank _ hblank.1]
      exact (width_trimEnd_le _).trans h
    -- what the front loses stands before what was lost already
    obtain ⟨kept', lost', blanks, hpiece, hfront, hlost'⟩ := isFrontOf_front hwidth
    refine ⟨kept', lost' ++ lost, blanks, ?_, hfront, List.forall_mem_append.mpr ⟨hlost', hlost⟩⟩
    rw [← List.append_assoc, ← hpiece]
    exact hall
  · exact ⟨trimEnd part ++ kept, lost, 0, hall, (List.append_nil _).symm, hlost⟩

/-- To show a line loses nothing that is to be seen. -/
theorem wraps_wrapped (line : List Char) : Wraps line (wrapped line) := by
  constructor
  · refine ⟨folded screenWidth true line, flatten_folded .., ?_⟩
    refine List.forall₂_map_left_iff.mpr (List.forall₂_same.mpr fun part hpart => ?_)
    exact isFrontOf_shownPart (width_trimEnd_le_of_mem_folded (by decide) hpart)
  · intro part hpart
    obtain ⟨part, -, rfl⟩ := List.mem_map.mp hpart
    unfold shownPart
    dsimp only
    split
    · exact width_front_le ..
    · next hfits => exact Nat.le_of_not_lt hfits

end Conformity.Console
