import Mathlib.Data.List.Infix
import Mathlib.Data.List.TakeWhile
import Conformity.Console.Styled
import Conformity.Proofs.Work

/-!
# Texts without marks

A text has no marks if there is no tag in it, and no backslash in front of a bracket. Read as styled text,
exactly such a text shows all of its characters (`shown_eq_self_iff`); every other one loses some of them, or
cannot be read at all. A text in a style and what follows it are read one after the other
(`withoutTags_styledText`), unless the text ends with a backslash (`isUnmarked_of_styledText`).
-/

namespace Conformity.Console

variable {cs content rest : List Char} {position : Nat} {pieces : List Piece}

/-! ## Tags -/

namespace Tag

/-- What may stand between the brackets of a tag. -/
structure IsContent (content : List Char) : Prop where
  start : ∃ c ∈ content.head?, isStart c
  noOpening : '[' ∉ content
  noClosing : ']' ∉ content

theorem upToBracket_eq_some_iff : upToBracket cs = some content ↔
    ('[' ∉ content ∧ ']' ∉ content) ∧ ∃ rest, cs = content ++ ']' :: rest := by
  induction cs generalizing content with
  | nil => simp [upToBracket]
  | cons c cs ih =>
      rw [upToBracket]
      by_cases hclosing : c = ']'
      · subst hclosing
        cases content with
        | nil => simp
        | cons d content => simp +contextual [eq_comm]
      · by_cases hopening : c = '['
        · subst hopening
          cases content with
          | nil => simp
          | cons d content => simp +contextual [eq_comm]
        · rw [beq_false_of_ne hclosing, beq_false_of_ne hopening]
          constructor
          · intro h
            obtain ⟨content', hcontent, rfl⟩ := Option.map_eq_some_iff.mp h
            obtain ⟨⟨hnoOpening, hnoClosing⟩, rest, rfl⟩ := ih.mp hcontent
            simp [Ne.symm hclosing, Ne.symm hopening, hnoOpening, hnoClosing]
          · rintro ⟨⟨hnoOpening, hnoClosing⟩, rest, hcs⟩
            cases content with
            | nil => exact absurd (List.cons.inj hcs).1 hclosing
            | cons d content =>
                obtain ⟨rfl, hrest⟩ := List.cons.inj hcs
                rw [List.mem_cons, not_or] at hnoOpening hnoClosing
                have hcontent := ih.mpr ⟨⟨hnoOpening.2, hnoClosing.2⟩, rest, hrest⟩
                simp [hcontent]

theorem IsContent.of_start {c : Char} (hc : isStart c) (hopening : '[' ∉ cs) (hclosing : ']' ∉ cs) :
    IsContent (c :: cs) := by
  have hne : c ≠ '[' ∧ c ≠ ']' :=
    ⟨fun h => absurd (h ▸ hc) (by decide), fun h => absurd (h ▸ hc) (by decide)⟩
  refine ⟨⟨c, rfl, hc⟩, ?_, ?_⟩
  · simp [hne.1.symm, hopening]
  · simp [hne.2.symm, hclosing]

theorem content?_eq_some_iff : content? cs = some content ↔
    IsContent content ∧ ∃ rest, cs = '[' :: (content ++ ']' :: rest) := by
  constructor
  · intro h
    unfold content? at h
    split at h
    · next c cs =>
      split at h
      · next hc =>
        obtain ⟨content', hcontent, rfl⟩ := Option.map_eq_some_iff.mp h
        obtain ⟨⟨hopening, hclosing⟩, rest, rfl⟩ := upToBracket_eq_some_iff.mp hcontent
        exact ⟨.of_start hc hopening hclosing, rest, rfl⟩
      · cases h
    · cases h
  · rintro ⟨⟨⟨c, hhead, hc⟩, hopening, hclosing⟩, rest, rfl⟩
    obtain ⟨content', rfl⟩ : ∃ content', content = c :: content' := List.head?_eq_some_iff.mp hhead
    rw [List.mem_cons, not_or] at hopening hclosing
    have hcontent : upToBracket (content' ++ ']' :: rest) = some content' :=
      upToBracket_eq_some_iff.mpr ⟨⟨hopening.2, hclosing.2⟩, rest, rfl⟩
    show (if isStart c then (upToBracket (content' ++ ']' :: rest)).map (c :: ·) else none) = _
    rw [if_pos hc, hcontent]
    rfl

end Tag

open Tag (IsContent)

/-! ## Reading styled text -/

/-- The text of a tag with backslashes in front of it. -/
def tagged (slashes : Nat) (content rest : List Char) : List Char :=
  List.replicate slashes '\\' ++ '[' :: (content ++ ']' :: rest)

/-- What a tag with backslashes in front of it stands for: itself as text if their number is odd. -/
def mark (position slashes : Nat) (content : List Char) : Piece :=
  if slashes % 2 = 1 then .text ('[' :: content ++ [']'])
  else .tag (position + slashes) (Tag.ofContent content)

/-- Does a text begin with a tag, which may have backslashes in front of it? -/
def BeginsWithTag (cs : List Char) : Prop :=
  ∃ slashes content rest, IsContent content ∧ cs = tagged slashes content rest

theorem takeWhile_slash (slashes : Nat) (rest : List Char) :
    (List.replicate slashes '\\' ++ '[' :: rest).takeWhile (· == '\\') =
      List.replicate slashes '\\' := by
  rw [List.takeWhile_append_of_pos (by simp), List.takeWhile_cons_of_neg (by decide), List.append_nil]

theorem taggedPieces?_tagged (h : IsContent content) (position slashes : Nat) (rest : List Char) :
    taggedPieces? position (tagged slashes content rest) =
      some ([.text (List.replicate (slashes / 2) '\\'), mark position slashes content],
        slashes + content.length + 2) := by
  have hcontent : Tag.content? ('[' :: (content ++ ']' :: rest)) = some content :=
    Tag.content?_eq_some_iff.mpr ⟨h, rest, rfl⟩
  unfold taggedPieces? tagged
  dsimp only
  rw [takeWhile_slash, List.length_replicate, List.drop_left' (List.length_replicate ..), hcontent]
  rfl

theorem taggedPieces?_eq_none (h : ¬ BeginsWithTag cs) : taggedPieces? position cs = none := by
  refine Option.map_eq_none_iff.mpr (Option.eq_none_iff_forall_ne_some.mpr fun content hcontent => h ?_)
  obtain ⟨hcontent, rest, hdrop⟩ := Tag.content?_eq_some_iff.mp hcontent
  have hslashes : cs.takeWhile (· == '\\') =
      List.replicate (cs.takeWhile (· == '\\')).length '\\' :=
    List.eq_replicate_iff.mpr
      ⟨rfl, fun c hc => eq_of_beq (List.all_eq_true.mp List.all_takeWhile c hc)⟩
  have hfront := List.prefix_iff_eq_append.mp (List.takeWhile_prefix (· == '\\') (l := cs))
  refine ⟨(cs.takeWhile (· == '\\')).length, content, rest, hcontent, ?_⟩
  rw [tagged, ← hslashes, ← hdrop, hfront]

/-- The pieces of a text that begins at a position: a tag at the front, or else one character, and the
pieces of the rest. -/
inductive Reads : Nat → List Char → List Piece → Prop
  | nil {position : Nat} : Reads position [] []
  | tag {position : Nat} (slashes : Nat) {content rest : List Char} {pieces : List Piece}
      (hcontent : IsContent content)
      (hrest : Reads (position + (slashes + content.length + 2)) rest pieces) :
      Reads position (tagged slashes content rest)
        (.text (List.replicate (slashes / 2) '\\') :: mark position slashes content :: pieces)
  | char {position : Nat} {c : Char} {cs : List Char} {pieces : List Piece}
      (hnone : ¬ BeginsWithTag (c :: cs)) (hrest : Reads (position + 1) cs pieces) :
      Reads position (c :: cs)
        (.text (if c == '\\' && cs.head? == some '[' then [] else [c]) :: pieces)

theorem piecesFrom_skip (position skip : Nat) (cs : List Char) :
    piecesFrom position skip cs = piecesFrom (position + skip) 0 (cs.drop skip) := by
  induction cs generalizing position skip with
  | nil => simp [piecesFrom]
  | cons c cs ih =>
      cases skip with
      | zero => rfl
      | succ skip =>
          rw [piecesFrom, ih, List.drop_succ_cons, Nat.add_right_comm]
          rfl

theorem length_tagged (slashes : Nat) (content rest : List Char) :
    (tagged slashes content rest).length = slashes + content.length + 2 + rest.length := by
  rw [tagged, List.length_append, List.length_replicate, List.length_cons, List.length_append,
    List.length_cons]
  omega

theorem drop_tagged (slashes : Nat) (content rest : List Char) :
    (tagged slashes content rest).drop (slashes + content.length + 2) = rest := by
  have hfront : tagged slashes content rest =
      (List.replicate slashes '\\' ++ '[' :: (content ++ [']'])) ++ rest := by
    simp [tagged]
  rw [hfront]
  exact List.drop_left' (by simp [Nat.add_assoc])

theorem piecesFrom_tagged (h : IsContent content) (position slashes : Nat) (rest : List Char) :
    piecesFrom position 0 (tagged slashes content rest) =
      .text (List.replicate (slashes / 2) '\\') :: mark position slashes content ::
        piecesFrom (position + (slashes + content.length + 2)) 0 rest := by
  have hpieces := taggedPieces?_tagged h position slashes rest
  have hdrop := drop_tagged slashes content rest
  cases hcs : tagged slashes content rest with
  | nil =>
      have hlength := length_tagged slashes content rest
      rw [hcs, List.length_nil] at hlength
      omega
  | cons c cs =>
      rw [hcs] at hpieces hdrop
      -- the first character is read, and the others of the tag are left out
      have hrest : cs.drop (slashes + content.length + 1) = rest := hdrop
      have hposition : position + 1 + (slashes + content.length + 1) =
          position + (slashes + content.length + 2) := by omega
      rw [piecesFrom, hpieces]
      show _ ++ piecesFrom (position + 1) (slashes + content.length + 1) cs = _
      rw [piecesFrom_skip, hrest, hposition]
      rfl

theorem piecesFrom_cons {c : Char} (h : ¬ BeginsWithTag (c :: cs)) (position : Nat) :
    piecesFrom position 0 (c :: cs) =
      .text (if c == '\\' && cs.head? == some '[' then [] else [c]) ::
        piecesFrom (position + 1) 0 cs := by
  rw [piecesFrom, taggedPieces?_eq_none h]

theorem Reads.piecesFrom_eq (h : Reads position cs pieces) : piecesFrom position 0 cs = pieces := by
  induction h with
  | nil => rfl
  | tag slashes hcontent _ ih => rw [piecesFrom_tagged hcontent, ih]
  | char hnone _ ih => rw [piecesFrom_cons hnone, ih]

theorem reads_piecesFrom (position : Nat) (cs : List Char) :
    Reads position cs (piecesFrom position 0 cs) := by
  induction hlength : cs.length using Nat.strong_induction_on generalizing position cs with
  | _ length ih =>
      by_cases htag : BeginsWithTag cs
      · obtain ⟨slashes, content, rest, hcontent, rfl⟩ := htag
        rw [length_tagged] at hlength
        rw [piecesFrom_tagged hcontent]
        exact .tag slashes hcontent (ih rest.length (by omega) _ rest rfl)
      · cases cs with
        | nil => exact .nil
        | cons c cs =>
            rw [List.length_cons] at hlength
            rw [piecesFrom_cons htag]
            exact .char htag (ih cs.length (by omega) _ cs rfl)

/-! ## What is shown -/

/-- The text that a piece shows. -/
def Piece.shown : Piece → List Char
  | text cs => cs
  | tag _ _ => []

/-- The text that pieces show. -/
def shown (pieces : List Piece) : List Char := pieces.flatMap Piece.shown

@[simp] theorem Piece.shown_text (cs : List Char) : (text cs).shown = cs := rfl

@[simp] theorem shown_nil : shown [] = [] := rfl

@[simp] theorem shown_cons (piece : Piece) (pieces : List Piece) :
    shown (piece :: pieces) = piece.shown ++ shown pieces := rfl

@[simp] theorem shown_append (ps qs : List Piece) : shown (ps ++ qs) = shown ps ++ shown qs :=
  List.flatMap_append

theorem shown_mark (position slashes : Nat) (content : List Char) :
    (mark position slashes content).shown =
      if slashes % 2 = 1 then '[' :: (content ++ [']']) else [] := by
  unfold mark
  split <;> rfl

/-- The characters that one character shows, which is left out if it is a backslash in front of a
bracket. -/
theorem shown_char_cases (c : Char) (cs : List Char) :
    (c = '\\' ∧ cs.head? = some '[' ∧ (if c == '\\' && cs.head? == some '[' then [] else [c]) = []) ∨
      (¬ (c = '\\' ∧ cs.head? = some '[') ∧
        (if c == '\\' && cs.head? == some '[' then [] else [c]) = [c]) := by
  by_cases h : c = '\\' ∧ cs.head? = some '['
  · exact .inl ⟨h.1, h.2, by simp [h.1, h.2]⟩
  · refine .inr ⟨h, if_neg ?_⟩
    simpa using h

/-- Nothing is shown that is not in the text. -/
theorem Reads.sublist (h : Reads position cs pieces) : List.Sublist (shown pieces) cs := by
  induction h with
  | nil => exact .slnil
  | @tag position slashes content rest _ _ _ ih =>
      have hslashes : List.Sublist (List.replicate (slashes / 2) '\\') (List.replicate slashes '\\') :=
        (List.replicate_sublist_replicate _).mpr (Nat.div_le_self ..)
      have hmark : List.Sublist (mark position slashes content).shown ('[' :: (content ++ [']'])) := by
        rw [shown_mark]
        split
        · exact .refl _
        · exact List.nil_sublist _
      have hall := hslashes.append (hmark.append ih)
      simpa [tagged] using hall
  | @char _ c cs _ _ _ ih =>
      rw [shown_cons, Piece.shown_text]
      rcases shown_char_cases c cs with ⟨-, -, hkept⟩ | ⟨-, hkept⟩
      · rw [hkept]
        exact ih.cons c
      · rw [hkept]
        exact ih.cons_cons c

/-- What is shown when no tag fails. -/
theorem shown_of_withoutTags {styles : List String}
    (h : withoutTags styles pieces = .ok cs) : shown pieces = cs := by
  induction pieces generalizing styles cs with
  | nil =>
      cases h
      rfl
  | cons piece pieces ih =>
      cases piece with
      | text ds =>
          obtain ⟨rest, hrest, rfl⟩ := map_eq_ok.mp h
          exact congrArg (ds ++ ·) (ih hrest)
      | tag position t =>
          unfold withoutTags at h
          split at h
          · split at h
            · split at h
              · exact ih h
              · cases h
            · split at h
              · exact ih h
              · cases h
          · exact ih h

/-! ## Texts without marks -/

/-- There is no tag in a text, and no backslash in front of a bracket. -/
structure IsUnmarked (cs : List Char) : Prop where
  noTag : ∀ content, IsContent content → ¬ '[' :: (content ++ [']']) <:+: cs
  noEscape : ¬ ['\\', '['] <:+: cs

theorem BeginsWithTag.exists_content (h : BeginsWithTag cs) :
    ∃ content, IsContent content ∧ '[' :: (content ++ [']']) <:+: cs := by
  obtain ⟨slashes, content, rest, hcontent, rfl⟩ := h
  exact ⟨content, hcontent, List.replicate slashes '\\', rest, by simp [tagged]⟩

theorem isUnmarked_cons_iff {c : Char} : IsUnmarked (c :: cs) ↔
    (¬ BeginsWithTag (c :: cs) ∧ ¬ (c = '\\' ∧ cs.head? = some '[')) ∧ IsUnmarked cs := by
  constructor
  · intro h
    refine ⟨⟨fun htag => ?_, ?_⟩, ?_⟩
    · obtain ⟨content, hcontent, hwithin⟩ := htag.exists_content
      exact h.noTag content hcontent hwithin
    · rintro ⟨rfl, hhead⟩
      obtain ⟨rest, rfl⟩ := List.head?_eq_some_iff.mp hhead
      exact h.noEscape ⟨[], rest, rfl⟩
    · exact ⟨fun content hcontent hwithin => h.noTag content hcontent (List.infix_cons hwithin),
        fun hwithin => h.noEscape (List.infix_cons hwithin)⟩
  · rintro ⟨⟨htag, hescape⟩, h⟩
    constructor
    · intro content hcontent hwithin
      rcases List.infix_cons_iff.mp hwithin with ⟨rest, hbegins⟩ | hwithin
      · refine htag ⟨0, content, rest, hcontent, ?_⟩
        rw [← hbegins]
        simp [tagged]
      · exact h.noTag content hcontent hwithin
    · intro hwithin
      rcases List.infix_cons_iff.mp hwithin with ⟨rest, hbegins⟩ | hwithin
      · obtain ⟨rfl, rfl⟩ := List.cons.inj hbegins
        exact hescape ⟨rfl, rfl⟩
      · exact h.noEscape hwithin

theorem isUnmarked_of_notMem (h : '[' ∉ cs) : IsUnmarked cs :=
  ⟨fun _ _ hwithin => h (hwithin.subset (by simp)), fun hwithin => h (hwithin.subset (by simp))⟩

/-- A text without marks is read character by character. -/
theorem Reads.eq_map (h : Reads position cs pieces) (hunmarked : IsUnmarked cs) :
    pieces = cs.map fun c => .text [c] := by
  induction h with
  | nil => rfl
  | tag slashes hcontent _ _ =>
      obtain ⟨content, hcontent, hwithin⟩ := BeginsWithTag.exists_content ⟨slashes, _, _, hcontent, rfl⟩
      exact absurd hwithin (hunmarked.noTag content hcontent)
  | @char _ c cs _ _ _ ih =>
      obtain ⟨⟨-, hescape⟩, hrest⟩ := isUnmarked_cons_iff.mp hunmarked
      have hkept : (c == '\\' && cs.head? == some '[') = false := by
        simpa [Bool.and_eq_false_iff] using hescape
      rw [ih hrest, hkept]
      rfl

theorem count_bracket_tagged (h : IsContent content) (slashes : Nat) (rest : List Char) :
    (tagged slashes content rest).count '[' = rest.count '[' + 1 := by
  have hcontent : content.count '[' = 0 := List.count_eq_zero.mpr h.noOpening
  simp [tagged, List.count_replicate, hcontent]

theorem count_slash_tagged (slashes : Nat) (content rest : List Char) :
    (tagged slashes content rest).count '\\' =
      slashes + (content.count '\\' + rest.count '\\') := by
  simp [tagged]

theorem count_bracket_mark_le (h : IsContent content) (position slashes : Nat) :
    (mark position slashes content).shown.count '[' ≤ slashes % 2 := by
  have hcontent : content.count '[' = 0 := List.count_eq_zero.mpr h.noOpening
  rw [shown_mark]
  split
  · next hodd => simp [hcontent, hodd]
  · simp

theorem count_slash_mark_le (position slashes : Nat) (content : List Char) :
    (mark position slashes content).shown.count '\\' ≤ content.count '\\' := by
  rw [shown_mark]
  split
  · simp
  · simp

/-- A text of which neither a bracket nor a backslash is lost has no marks. -/
theorem Reads.isUnmarked (h : Reads position cs pieces)
    (hbracket : cs.count '[' ≤ (shown pieces).count '[')
    (hslash : cs.count '\\' ≤ (shown pieces).count '\\') : IsUnmarked cs := by
  induction h with
  | nil => exact isUnmarked_of_notMem List.not_mem_nil
  | @tag position slashes content rest pieces hcontent hreads _ =>
      -- a tag is lost without backslashes, and of backslashes at least one half
      have hrest := hreads.sublist
      have hmark := count_bracket_mark_le hcontent position slashes
      have hmark' := count_slash_mark_le position slashes content
      have hrest' := hrest.count_le '\\'
      have hrest := hrest.count_le '['
      rw [count_bracket_tagged hcontent] at hbracket
      rw [count_slash_tagged] at hslash
      have hnone : (List.replicate (slashes / 2) '\\').count '[' = 0 := by
        simp [List.count_replicate]
      rw [shown_cons, shown_cons, Piece.shown_text, List.count_append, List.count_append]
        at hbracket hslash
      rw [List.count_replicate_self] at hslash
      omega
  | @char _ c cs pieces hnone hreads ih =>
      have hrest := hreads.sublist.count_le '\\'
      rw [shown_cons, Piece.shown_text, List.count_append] at hbracket hslash
      rcases shown_char_cases c cs with ⟨rfl, -, hkept⟩ | ⟨hescape, hkept⟩
      · rw [hkept, List.count_cons_self, List.count_nil] at hslash
        omega
      · rw [hkept, List.count_cons, List.count_singleton] at hbracket hslash
        exact isUnmarked_cons_iff.mpr ⟨⟨hnone, hescape⟩, ih (by omega) (by omega)⟩

/-- Exactly a text without marks shows all of its characters. -/
theorem shown_eq_self_iff (cs : List Char) : shown (piecesFrom 0 0 cs) = cs ↔ IsUnmarked cs := by
  have hreads := reads_piecesFrom 0 cs
  constructor
  · intro h
    exact hreads.isUnmarked (by rw [h]) (by rw [h])
  · intro h
    rw [hreads.eq_map h]
    simp [shown, List.flatMap_map, Piece.shown]

instance (cs : List Char) : Decidable (IsUnmarked cs) := decidable_of_iff _ (shown_eq_self_iff cs)

/-- In a tag no bracket has a backslash in front of it. -/
theorem infix_escape_of_append (hcs : '[' ∉ cs) (h : ['\\', '['] <:+: cs ++ ']' :: rest) :
    ['\\', '['] <:+: rest := by
  induction cs with
  | nil => exact (List.infix_cons_iff.mp h).resolve_left (by simp)
  | cons d cs ih =>
      rw [List.mem_cons, not_or] at hcs
      refine ih hcs.2 ((List.infix_cons_iff.mp h).resolve_left ?_)
      rintro ⟨after, hbegins⟩
      have hnext : '[' :: after = cs ++ ']' :: rest := (List.cons.inj hbegins).2
      cases cs with
      | nil => exact absurd (List.cons.inj hnext).1 (by decide)
      | cons e cs => exact hcs.2 (by rw [(List.cons.inj hnext).1]; exact List.mem_cons_self)

/-- A backslash in front of a bracket is lost, or one next to it. -/
theorem Reads.count_slash_lt (h : Reads position cs pieces) (hescape : ['\\', '['] <:+: cs) :
    (shown pieces).count '\\' < cs.count '\\' := by
  induction h with
  | nil => exact absurd (List.IsInfix.length_le hescape) (by simp)
  | @tag position slashes content rest pieces hcontent hreads ih =>
      have hmark := count_slash_mark_le position slashes content
      have hrest := hreads.sublist.count_le '\\'
      rw [count_slash_tagged]
      simp only [shown_cons, Piece.shown_text, List.count_append, List.count_replicate_self]
      by_cases hslashes : slashes = 0
      · subst hslashes
        have hlost := ih (infix_escape_of_append hcontent.noOpening
          ((List.infix_cons_iff.mp hescape).resolve_left (by simp)))
        omega
      · omega
  | @char _ c cs pieces hnone hreads ih =>
      have hrest := hreads.sublist.count_le '\\'
      rw [shown_cons, Piece.shown_text, List.count_append]
      rcases shown_char_cases c cs with ⟨rfl, -, hkept⟩ | ⟨hnoEscape, hkept⟩
      · rw [hkept, List.count_cons_self, List.count_nil]
        omega
      · simp only [hkept, List.count_cons, List.count_nil]
        rcases List.infix_cons_iff.mp hescape with ⟨rest, hbegins⟩ | hwithin
        · obtain ⟨rfl, rfl⟩ := List.cons.inj hbegins
          exact absurd ⟨rfl, rfl⟩ hnoEscape
        · have hlost := ih hwithin
          omega

/-! ## Styled texts -/

theorem beginsWithTag_of_append (hne : cs ≠ []) (hend : ¬ ['\\'] <:+ cs)
    (h : BeginsWithTag (cs ++ '[' :: rest)) : BeginsWithTag cs := by
  have hslashes : ∀ slashes, cs ≠ List.replicate slashes '\\' := by
    rintro slashes rfl
    cases slashes with
    | zero => exact hne rfl
    | succ slashes => exact hend ⟨List.replicate slashes '\\', List.replicate_succ'.symm⟩
  obtain ⟨slashes, content, rest', hcontent, heq⟩ := h
  unfold tagged at heq
  rcases List.append_eq_append_iff.mp heq with ⟨more, hmore, -⟩ | ⟨more, rfl, hmore⟩
  · exact absurd (List.append_eq_replicate_iff.mp hmore.symm).2.1 (hslashes _)
  · cases more with
    | nil => exact absurd (List.append_nil _) (hslashes slashes)
    | cons c more =>
        obtain ⟨rfl, hbehind⟩ := List.cons.inj hmore
        -- the tag ends before the bracket, for there is none in its content
        rcases List.append_eq_append_iff.mp hbehind with ⟨after, rfl, hafter⟩ | ⟨after, rfl, hafter⟩
        · cases after with
          | nil => exact absurd (List.cons.inj hafter).1 (by decide)
          | cons d after =>
              obtain ⟨rfl, -⟩ := List.cons.inj hafter
              exact ⟨slashes, content, after, hcontent, by simp [tagged]⟩
        · cases after with
          | nil => exact absurd (List.cons.inj hafter).1 (by decide)
          | cons d after =>
              obtain ⟨rfl, -⟩ := List.cons.inj hafter
              exact absurd hcontent.noOpening (by simp)

/-- A text in front of a bracket is read on its own, unless it ends with a backslash. -/
theorem Reads.append_bracket (h : Reads position cs pieces) (hend : ¬ ['\\'] <:+ cs)
    {ps : List Piece} (hrest : Reads (position + cs.length) ('[' :: rest) ps) :
    Reads position (cs ++ '[' :: rest) (pieces ++ ps) := by
  induction h with
  | nil => exact hrest
  | @tag position slashes content front pieces hcontent _ ih =>
      have hsuffix : front <:+ tagged slashes content front :=
        ⟨List.replicate slashes '\\' ++ '[' :: (content ++ [']']), by simp [tagged]⟩
      have hfront : tagged slashes content front ++ '[' :: rest =
          tagged slashes content (front ++ '[' :: rest) := by simp [tagged]
      rw [length_tagged, ← Nat.add_assoc] at hrest
      rw [hfront]
      exact .tag slashes hcontent (ih (fun h => hend (h.trans hsuffix)) hrest)
  | @char position c cs pieces hnone _ ih =>
      have hkept : (c == '\\' && cs.head? == some '[') =
          (c == '\\' && (cs ++ '[' :: rest).head? == some '[') := by
        cases cs with
        | nil =>
            have hc : (c == '\\') = false := beq_false_of_ne fun hc => hend (by rw [hc])
            rw [hc]
            rfl
        | cons d cs => rfl
      rw [List.length_cons, Nat.add_comm cs.length, ← Nat.add_assoc] at hrest
      rw [hkept]
      refine .char (fun htag => hnone (beginsWithTag_of_append (by simp) hend htag)) (ih ?_ hrest)
      exact fun h => hend (h.trans (List.suffix_cons ..))

/-- The name of a style, which a tag may hold. -/
structure IsStyle (style : List Char) : Prop extends IsContent style where
  noEnd : style.head? ≠ some '/'
  noParameters : '=' ∉ style
  noSlash : '\\' ∉ style
  notBlank : Text.isBlankText (String.ofList style) = false

-- the quantifiers over characters are told as functions of lists, for otherwise all characters are tried
instance (style : List Char) : Decidable (IsStyle style) :=
  decidable_of_iff
    ((style.head?.any Tag.isStart ∧ '[' ∉ style ∧ ']' ∉ style) ∧ style.head? ≠ some '/' ∧ '=' ∉ style ∧
      '\\' ∉ style ∧ Text.isBlankText (String.ofList style) = false)
    (by
      rw [Option.any_eq_true]
      constructor
      · rintro ⟨⟨hstart, hopening, hclosing⟩, hend, hparameters, hslash, hblank⟩
        exact ⟨⟨hstart, hopening, hclosing⟩, hend, hparameters, hslash, hblank⟩
      · rintro ⟨⟨hstart, hopening, hclosing⟩, hend, hparameters, hslash, hblank⟩
        exact ⟨⟨hstart, hopening, hclosing⟩, hend, hparameters, hslash, hblank⟩)

/-- A text in a style, and what follows it. -/
def styledText (style text rest : List Char) : List Char :=
  '[' :: (style ++ ']' :: (text ++ '[' :: ('/' :: style ++ ']' :: rest)))

variable {style text : List Char}

theorem IsStyle.closing (h : IsStyle style) : IsContent ('/' :: style) :=
  .of_start rfl h.noOpening h.noClosing

theorem ofContent_eq (h : '=' ∉ content) : Tag.ofContent content = ⟨content, none⟩ := by
  have hall : ∀ c ∈ content, (c != '=') = true := fun c hc => by
    rw [bne_iff_ne]
    rintro rfl
    exact h hc
  unfold Tag.ofContent
  rw [List.takeWhile_eq_self_iff.mpr hall, List.dropWhile_eq_nil_iff.mpr hall]

theorem piecesFrom_styledText (hstyle : IsStyle style) (hend : ¬ ['\\'] <:+ text) (rest : List Char) :
    ∃ p q r, piecesFrom 0 0 (styledText style text rest) =
      .text [] :: .tag 0 ⟨style, none⟩ :: (piecesFrom p 0 text ++
        .text [] :: .tag q ⟨'/' :: style, none⟩ :: piecesFrom r 0 rest) := by
  have hopening : Tag.ofContent style = ⟨style, none⟩ := ofContent_eq hstyle.noParameters
  have hclosing : Tag.ofContent ('/' :: style) = ⟨'/' :: style, none⟩ :=
    ofContent_eq (by simp [hstyle.noParameters])
  have hreads : Reads 0 (styledText style text rest) _ :=
    .tag 0 hstyle.toIsContent ((reads_piecesFrom _ text).append_bracket hend
      (.tag 0 hstyle.closing (reads_piecesFrom _ rest)))
  rw [hreads.piecesFrom_eq, ← hopening, ← hclosing]
  exact ⟨_, _, _, rfl⟩

theorem withoutTags_map_append (styles : List String) (cs : List Char) (pieces : List Piece) :
    withoutTags styles ((cs.map fun c => .text [c]) ++ pieces) =
      (withoutTags styles pieces).map (cs ++ ·) := by
  induction cs with
  | nil => cases h : withoutTags styles pieces <;> simp [h, Except.map]
  | cons c cs ih =>
      show (withoutTags styles ((cs.map fun c => .text [c]) ++ pieces)).map ([c] ++ ·) = _
      rw [ih]
      cases withoutTags styles pieces <;> rfl

theorem withoutTags_of_isUnmarked (h : IsUnmarked cs) (position : Nat) :
    withoutTags [] (piecesFrom position 0 cs) = .ok cs := by
  have hall := withoutTags_map_append [] cs []
  rw [List.append_nil] at hall
  rw [(reads_piecesFrom position cs).eq_map h, hall]
  exact congrArg Except.ok (List.append_nil cs)

/-- A style ends where it is to end. -/
theorem withoutTags_styledText (hstyle : IsStyle style) (hend : ¬ ['\\'] <:+ text)
    (htext : IsUnmarked text) (hrest : IsUnmarked rest) :
    withoutTags [] (piecesFrom 0 0 (styledText style text rest)) = .ok (text ++ rest) := by
  obtain ⟨p, q, r, hpieces⟩ := piecesFrom_styledText hstyle hend rest
  have hopening : ∀ ps, withoutTags [] (.tag 0 ⟨style, none⟩ :: ps) =
      withoutTags [styleName style] ps := by
    intro ps
    rw [withoutTags]
    split
    · next hname => exact absurd (congrArg List.head? hname) hstyle.noEnd
    · rfl
  have hclosing : withoutTags [styleName style] (.tag q ⟨'/' :: style, none⟩ :: piecesFrom r 0 rest) =
      .ok rest := by
    have hblank : ¬ Text.isBlankText (String.ofList style) = true := by
      rw [hstyle.notBlank]
      decide
    have hopen : [styleName style].contains (styleName style) = true := by simp
    rw [withoutTags]
    split
    · next name hname =>
      obtain rfl : style = name := (List.cons.inj hname).2
      rw [if_neg hblank, if_pos hopen, List.erase_cons_head, withoutTags_of_isUnmarked hrest]
    · next hname => exact absurd rfl (hname style)
  rw [hpieces, (reads_piecesFrom p text).eq_map htext, withoutTags, hopening, withoutTags_map_append,
    withoutTags, hclosing]
  rfl

theorem isUnmarked_of_withoutTags (h : withoutTags [] (piecesFrom position 0 text) = .ok cs)
    (hbracket : text.count '[' ≤ cs.count '[') (hslash : text.count '\\' ≤ cs.count '\\') :
    IsUnmarked text := by
  rw [← shown_of_withoutTags h] at hbracket hslash
  exact (reads_piecesFrom position text).isUnmarked hbracket hslash

/-- Where neither a bracket nor a backslash is lost of a text in a style and of what follows it, they
have no marks, and the text does not end with a backslash, which would make the end of the style plain
text. -/
theorem isUnmarked_of_styledText (hstyle : IsStyle style)
    (h : withoutTags [] (piecesFrom 0 0 (styledText style text rest)) = .ok cs)
    (hbracket : (text ++ rest).count '[' ≤ cs.count '[')
    (hslash : (text ++ rest).count '\\' ≤ cs.count '\\') :
    (IsUnmarked text ∧ ¬ ['\\'] <:+ text) ∧ IsUnmarked rest := by
  have hcs := shown_of_withoutTags h
  have hend : ¬ ['\\'] <:+ text := by
    rintro ⟨front, rfl⟩
    have hescape : ['\\', '['] <:+: styledText style (front ++ ['\\']) rest :=
      ⟨'[' :: (style ++ ']' :: front), '/' :: style ++ ']' :: rest, by simp [styledText]⟩
    have hlost := (reads_piecesFrom 0 _).count_slash_lt hescape
    have hcount : (styledText style (front ++ ['\\']) rest).count '\\' =
        (front ++ ['\\'] ++ rest).count '\\' := by
      have hstyleCount : style.count '\\' = 0 := List.count_eq_zero.mpr hstyle.noSlash
      simp [styledText, hstyleCount]
    rw [hcs, hcount] at hlost
    omega
  obtain ⟨p, q, r, hpieces⟩ := piecesFrom_styledText hstyle hend rest
  rw [hpieces] at hcs
  have hshown : cs = shown (piecesFrom p 0 text) ++ shown (piecesFrom r 0 rest) := by
    rw [← hcs]
    simp [Piece.shown]
  have htext := (reads_piecesFrom p text).sublist
  have hrest := (reads_piecesFrom r rest).sublist
  -- neither of both shows more brackets or backslashes than it has
  have hle : ∀ c, (shown (piecesFrom p 0 text)).count c ≤ text.count c ∧
      (shown (piecesFrom r 0 rest)).count c ≤ rest.count c :=
    fun c => ⟨htext.count_le c, hrest.count_le c⟩
  rw [hshown, List.count_append, List.count_append] at hbracket hslash
  have hbrackets := hle '['
  have hslashes := hle '\\'
  exact ⟨⟨(reads_piecesFrom p text).isUnmarked (by omega) (by omega), hend⟩,
    (reads_piecesFrom r rest).isUnmarked (by omega) (by omega)⟩

end Conformity.Console
