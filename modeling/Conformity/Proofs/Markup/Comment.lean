import Conformity.Markup.Content
import Conformity.Markup.Printed
import Conformity.Proofs.Text.Comment

/-!
# Reading comments

A comment is read up to the first pair of hyphens, behind which it must end (`comment?_eq_some_iff`).
What stands around the root is read comment by comment, whatever is read before and however much is
left (`miscellany_fuel`, `miscellany_read`). So a comment behind the heading is put before everything
else, and what follows it is read as if it were not there (`Written.body?_comment`).
-/

namespace Conformity.Markup

variable {edition : NameEdition} {fuel fuel' : Nat} {c : Char} {cs ds rest before t : List Char}
  {s : String} {read : List Written}

/-! ## One comment -/

theorem head?_append_pair (cs rest : List Char) :
    (cs ++ "--".toList ++ rest).head? = (cs ++ "--".toList).head? := by
  cases cs <;> rfl

/-- What stands before the first pair of hyphens is a text that can stand in a comment. -/
theorem upTo?_pair_iff : upTo? "--".toList before cs = some (t, rest) ↔
    ∃ m, t = before.reverse ++ m ∧ cs = m ++ "--".toList ++ rest ∧ IsCommentText m := by
  induction cs generalizing before with
  | nil => simp [upTo?]
  | cons c cs ih =>
      unfold upTo?
      split
      · next r hr =>
        have hcs : c :: cs = '-' :: '-' :: r := Text.after?_eq_some_iff.mp hr
        rw [Option.some_inj, Prod.mk.injEq]
        constructor
        · rintro ⟨rfl, rfl⟩
          exact ⟨[], by simp, hcs, by decide⟩
        · rintro ⟨m, rfl, hm, hcomment⟩
          cases m with
          | nil =>
              rw [hcs] at hm
              exact ⟨by simp, by simpa using hm⟩
          | cons d m =>
              -- a pair is there at once, and could not be in the comment
              rw [hcs] at hm
              obtain ⟨rfl, hbehind⟩ := List.cons.inj hm
              refine absurd ⟨rfl, ?_⟩ (isCommentText_cons_iff.mp hcomment).1
              rw [← head?_append_pair m rest]
              exact congrArg List.head? hbehind.symm
      · next hr =>
        have hno : ¬ (c = '-' ∧ cs.head? = some '-') := by
          rintro ⟨rfl, hd⟩
          obtain ⟨ds, rfl⟩ := List.head?_eq_some_iff.mp hd
          cases hr
        rw [ih]
        constructor
        · rintro ⟨m, rfl, rfl, hm⟩
          refine ⟨c :: m, by simp, by simp, isCommentText_cons_iff.mpr ⟨?_, hm⟩⟩
          rwa [← head?_append_pair m rest]
        · rintro ⟨m, rfl, hm, hcomment⟩
          cases m with
          | nil =>
              cases hm
              exact absurd ⟨rfl, rfl⟩ hno
          | cons d m =>
              cases hm
              exact ⟨m, by simp, by simp, (isCommentText_cons_iff.mp hcomment).2⟩

/-- A comment is read up to where it must end. -/
theorem comment?_eq_some_iff : comment? cs = some (s, rest) ↔
    IsCommentText s.toList ∧ cs = s.toList ++ "-->".toList ++ rest := by
  unfold comment?
  constructor
  · intro h
    split at h
    · next t r hup =>
      obtain ⟨m, rfl, rfl, hm⟩ := upTo?_pair_iff.mp hup
      cases h
      rw [String.toList_ofList]
      exact ⟨hm, by simp⟩
    · cases h
  · rintro ⟨hs, rfl⟩
    have hup : upTo? "--".toList [] (s.toList ++ "-->".toList ++ rest) =
        some (s.toList, '>' :: rest) := upTo?_pair_iff.mpr ⟨s.toList, rfl, by simp, hs⟩
    rw [hup]
    simp

/-- In content, too, a comment is read as it is written. -/
theorem content_comment {top : OpenElement} {below : List OpenElement} (hs : IsCommentText s.toList)
    (rest : List Char) : content edition (fuel + 1) top below ((Node.comment s).print.toList ++ rest) =
      content edition fuel (top.add (.comment s)) below rest := by
  have hread : comment? (s.toList ++ "-->".toList ++ rest) = some (s, rest) :=
    comment?_eq_some_iff.mpr ⟨hs, rfl⟩
  have hprint : (Node.comment s).print.toList ++ rest =
      '<' :: '!' :: '-' :: '-' :: (s.toList ++ "-->".toList ++ rest) := by
    simp [Node.print]
  have hopening : Text.after? "--".toList ('-' :: '-' :: (s.toList ++ "-->".toList ++ rest)) =
      some (s.toList ++ "-->".toList ++ rest) := Text.after?_append _ _
  rw [hprint, content]
  simp only [hopening, hread]

/-- A comment with a pair of hyphens in what was to be its text is ended within this text. -/
theorem exists_of_comment? (hpair : "--".toList <:+: t) (hlast : t.getLast? ≠ some '-')
    (h : comment? (t ++ "-->".toList ++ rest) = some (s, ds)) :
    ∃ more, t = s.toList ++ "-->".toList ++ more := by
  obtain ⟨hs, heq⟩ := comment?_eq_some_iff.mp h
  rw [List.append_assoc, List.append_assoc] at heq
  rcases List.append_eq_append_iff.mp heq with ⟨more, hmore, -⟩ | ⟨more, rfl, hends⟩
  · -- the text that was read would have the pair, too
    rw [hmore] at hs
    exact absurd (hpair.trans (List.prefix_append t more).isInfix) hs.1
  · have hfront : "-->".toList ++ ds = '-' :: '-' :: '>' :: ds := rfl
    rw [hfront] at hends
    rcases more with _ | ⟨c₁, _ | ⟨c₂, _ | ⟨c₃, more⟩⟩⟩
    · rw [List.append_nil] at hpair
      exact absurd hpair hs.1
    · obtain ⟨rfl, -⟩ := List.cons.inj hends
      exact absurd List.getLast?_concat hlast
    · obtain ⟨rfl, htail⟩ := List.cons.inj hends
      obtain ⟨rfl, -⟩ := List.cons.inj htail
      exact absurd (by simp) hlast
    · simp only [List.cons_append, List.cons.injEq] at hends
      obtain ⟨rfl, rfl, rfl, -⟩ := hends
      exact ⟨more, by simp⟩

/-! ## Around the root -/

theorem length_of_after? (h : Text.after? t cs = some rest) : rest.length ≤ cs.length := by
  rw [Text.after?_eq_some_iff.mp h, List.length_append]
  omega

theorem length_of_name? (h : edition.name? cs = some (s, rest)) : rest.length < cs.length := by
  unfold NameEdition.name? at h
  split at h
  · split at h
    · cases h
      exact Nat.lt_succ_of_le (List.dropWhile_sublist _).length_le
    · cases h
  · cases h

theorem length_of_upTo? (h : upTo? ds before cs = some (t, rest)) : rest.length ≤ cs.length := by
  induction cs generalizing before with
  | nil =>
      unfold upTo? at h
      split at h
      · cases h
        exact Nat.le_refl _
      · cases h
  | cons c cs ih =>
      unfold upTo? at h
      split at h
      · next hafter =>
        cases h
        exact length_of_after? hafter
      · exact Nat.le_succ_of_le (ih h)

theorem length_of_comment? (h : comment? cs = some (s, rest)) : rest.length < cs.length := by
  rw [(comment?_eq_some_iff.mp h).2]
  simp
  omega

theorem length_of_spaces? (h : spaces? cs = some rest) : rest.length < cs.length := by
  unfold spaces? at h
  split at h
  · split at h
    · cases h
      exact Nat.lt_succ_of_le (List.dropWhile_sublist _).length_le
    · cases h
  · cases h

theorem length_of_instruction? {p : String × Option String}
    (h : instruction? edition cs = some (p, rest)) : rest.length < cs.length := by
  unfold instruction? at h
  obtain ⟨⟨target, behind⟩, hname, h⟩ := Option.bind_eq_some_iff.mp h
  have hless := length_of_name? hname
  dsimp only at h
  split at h
  · cases h
  · split at h
    · next hafter =>
      cases h
      exact Nat.lt_of_le_of_lt (length_of_after? hafter) hless
    · obtain ⟨blanks, hblanks, h⟩ := Option.bind_eq_some_iff.mp h
      obtain ⟨⟨data, r⟩, hup, h⟩ := Option.bind_eq_some_iff.mp h
      cases h
      have hspaces := length_of_spaces? hblanks
      have hdata : r.length ≤ blanks.length := length_of_upTo? hup
      dsimp only
      omega

/-- There is enough fuel for every text that is shorter. -/
theorem miscellany_fuel (h : cs.length < fuel) (h' : cs.length < fuel') :
    miscellany edition fuel read cs = miscellany edition fuel' read cs := by
  induction fuel generalizing fuel' read cs with
  | zero => omega
  | succ fuel ih =>
      cases fuel' with
      | zero => omega
      | succ fuel' =>
          have hskip : (skipSpace cs).length ≤ cs.length := (List.dropWhile_sublist _).length_le
          unfold miscellany
          dsimp only
          split
          · next r hr =>
            refine Option.bind_congr fun p hp => ih ?_ ?_
            all_goals
              have hless := length_of_comment? hp
              have hafter := length_of_after? hr
              omega
          · split
            · next r hr =>
              refine Option.bind_congr fun p hp => ih ?_ ?_
              all_goals
                have hless := length_of_instruction? hp
                have hafter := length_of_after? hr
                omega
            · rfl

/-- What has been read comes first. -/
theorem miscellany_read (read : List Written) : miscellany edition fuel read cs =
    (miscellany edition fuel [] cs).map fun p => (read.reverse ++ p.1, p.2) := by
  induction fuel generalizing read cs with
  | zero => simp [miscellany]
  | succ fuel ih =>
      unfold miscellany
      dsimp only
      -- a node that is read now comes behind those read before
      have hnode : ∀ w r, miscellany edition fuel (w :: read) r =
          (miscellany edition fuel [w] r).map fun p => (read.reverse ++ p.1, p.2) := by
        intro w r
        rw [ih (w :: read), ih [w], Option.map_map]
        simp [Function.comp_def]
      split
      · simp only [Option.bind_eq_bind, Option.map_bind, Function.comp_def, hnode]
      · split
        · simp only [Option.bind_eq_bind, Option.map_bind, Function.comp_def, hnode]
        · simp

/-- Blanks in front count for nothing. -/
theorem miscellany_congr (h : skipSpace cs = skipSpace ds) :
    miscellany edition (cs.length + 1) read cs = miscellany edition (ds.length + 1) read ds := by
  have hlong : cs.length < cs.length + ds.length + 1 := by omega
  have hlong' : ds.length < cs.length + ds.length + 1 := by omega
  rw [miscellany_fuel (Nat.lt_succ_self _) hlong, miscellany_fuel (Nat.lt_succ_self _) hlong']
  unfold miscellany
  rw [h]

/-- A comment in front is the first that is read. -/
theorem miscellany_comment (hcs : skipSpace cs = "<!--".toList ++ rest) :
    miscellany edition (cs.length + 1) [] cs = (comment? rest).bind fun p =>
      (miscellany edition (p.2.length + 1) [] p.2).map fun q => (.comment p.1 :: q.1, q.2) := by
  have hshort : rest.length < cs.length := by
    have hskip : (skipSpace cs).length ≤ cs.length := (List.dropWhile_sublist _).length_le
    rw [hcs] at hskip
    simp at hskip
    omega
  have hopening : Text.after? "<!--".toList (skipSpace cs) = some rest := by
    rw [hcs, Text.after?_append]
  rw [miscellany]
  simp only [hopening]
  refine Option.bind_congr fun p hp => ?_
  have hless := length_of_comment? hp
  rw [miscellany_read, miscellany_fuel (Nat.lt_trans hless hshort) (Nat.lt_succ_self _)]
  rfl

/-! ## Documents -/

/-- A document with a comment before everything else. -/
def WrittenDocument.withComment (s : String) (w : WrittenDocument) : WrittenDocument :=
  match w.doctype with
  | some _ => { w with beforeType := .comment s :: w.beforeType }
  | none => { w with beforeRoot := .comment s :: w.beforeRoot }

namespace Written

/-- Reads a document behind its heading. -/
def body? (edition : NameEdition) (heading : Option Heading) (cs : List Char) :
    Option WrittenDocument := do
  let (beforeType, doctype, beforeRoot, rest) ← prolog? edition cs
  let (root, rest) ← element? edition (← Text.after? ['<'] rest)
  let (afterRoot, rest) ← miscellany edition (rest.length + 1) [] rest
  if rest.isEmpty then
    return { heading, beforeType, doctype, beforeRoot, root, afterRoot }
  else none

theorem document?_eq : document? edition cs =
    if !cs.all isDocumentChar then none
    else (Heading.read? (plainLines cs)).bind fun p => body? edition p.1 p.2 := rfl

variable {heading : Option Heading}

theorem body?_congr (h : skipSpace cs = skipSpace ds) :
    body? edition heading cs = body? edition heading ds := by
  unfold body? prolog?
  rw [miscellany_congr h]

/-- A comment in front is put before everything else. -/
theorem body?_comment (hcs : skipSpace cs = "<!--".toList ++ rest) :
    body? edition heading cs = (comment? rest).bind fun p =>
      (body? edition heading p.2).map (·.withComment p.1) := by
  unfold body? prolog?
  rw [miscellany_comment hcs]
  cases comment? rest with
  | none => rfl
  | some p =>
      rw [Option.bind_some, Option.bind_some]
      cases miscellany edition (p.2.length + 1) [] p.2 with
      | none => rfl
      | some q =>
          simp only [Option.map_some, Option.bind_eq_bind, Option.bind_some, Option.map_bind,
            Function.comp_def, Option.pure_def, apply_ite (Option.map _), Option.map_none]
          -- the comment comes before the document type if there is one, else before the root
          split
          · simp only [Option.bind_assoc, Option.bind_some]
            rfl
          · simp only [Option.bind_some]
            rfl

end Written

end Conformity.Markup
