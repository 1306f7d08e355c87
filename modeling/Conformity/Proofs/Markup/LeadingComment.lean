import Conformity.Markup.Edit
import Conformity.Proofs.Markup.Charset
import Conformity.Proofs.Markup.Comment
import Conformity.Proofs.Markup.Joined

/-!
# A comment in front of a document

`withLeadingComment` puts a comment behind the heading of a document. If the comment has no three hyphens
in a row, the document is read with just this comment before everything else. If it has, two of them are
left, and then the comment either makes the document malformed or is ended early
(`withLeadingComment_exact`).
-/

namespace Conformity

open Markup

variable {text tail cs : List Char} {h : Heading} {comment : String} {d : Document}

/-! ## Bytes -/

theorem splitAtBytes_append {bs : Bytes} (hbs : (0x3E : UInt8) ∉ bs) (rest : Bytes) :
    splitAtBytes [0x3F, 0x3E] (bs ++ 0x3F :: 0x3E :: rest) = some (bs, 0x3F :: 0x3E :: rest) := by
  induction bs with
  | nil => simp [splitAtBytes]
  | cons b bs ih =>
      rw [List.mem_cons, not_or] at hbs
      -- no closing bracket stands behind this byte, so the end does not begin here
      have hno : [0x3F, 0x3E].isPrefixOf (b :: (bs ++ 0x3F :: 0x3E :: rest)) = false := by
        cases bs with
        | nil => simp [List.isPrefixOf]
        | cons b' bs =>
            rw [List.mem_cons, not_or] at hbs
            simp [List.isPrefixOf, hbs.2.1]
      rw [List.cons_append, splitAtBytes, hno, ih hbs.2]
      rfl

/-- Is this part of a line end? -/
def isLineEnd (c : Char) : Bool := c == '\r' || c == '\n'

/-- Line ends are dropped from a text and from its bytes alike. -/
theorem dropWhile_encode (cs : List Char) :
    (Text.encode cs).dropWhile (fun b => b == 0x0D || b == 0x0A) =
      Text.encode (cs.dropWhile isLineEnd) := by
  induction cs with
  | nil => rfl
  | cons c cs ih =>
      rw [List.dropWhile_cons]
      split
      · next hc =>
        rw [← ih]
        rcases Bool.or_eq_true_iff.mp hc with hc | hc <;>
        · rw [beq_iff_eq.mp hc]
          rfl
      · next hc =>
        obtain ⟨b, bytes, hbytes, -⟩ := Text.lead_encodeChar c []
        -- the first byte of another character is none of a line end
        have hfirst : ∀ d : Char, d.toNat < 0x80 → c ≠ d → b ≠ d.toNat.toUInt8 := by
          rintro d hd hcd rfl
          have hmem : d.toNat.toUInt8 ∈ Text.encode [c] := by
            simp [Text.encode, hbytes]
          exact hcd (List.mem_singleton.mp (Text.mem_of_mem_encode hd hmem)).symm
        have hne : c ≠ '\r' ∧ c ≠ '\n' := by
          simpa [isLineEnd] using hc
        have hcr : b ≠ 0x0D := hfirst '\r' (by decide) hne.1
        have hlf : b ≠ 0x0A := hfirst '\n' (by decide) hne.2
        rw [Text.encode, List.flatMap_cons, hbytes, List.cons_append, List.dropWhile_cons_of_neg]
        simp [hcr, hlf]

/-- The text of a comment as `withLeadingComment` writes it. -/
def spaced (comment : String) : List Char :=
  " ".toList ++ pairsReplaced comment.toList ++ " ".toList

/-- A comment is put on a line of its own behind the heading, and the line ends there are dropped. -/
theorem withLeadingComment_encode (hheading : IsHeading h text) (tail : List Char) (comment : String) :
    withLeadingComment (Text.encode (text ++ tail)) comment =
      Text.encode (text ++ ("\n<!--".toList ++ spaced comment ++ "-->\n".toList ++
        tail.dropWhile isLineEnd)) := by
  obtain ⟨body, rfl, hinner⟩ := hheading.exists_body
  have hclosing : Text.encode "?>".toList = [0x3F, 0x3E] := rfl
  -- the closing bracket is the first one, in bytes as in characters
  have hno : (0x3E : UInt8) ∉ Text.encode ("<?xml".toList ++ body) := by
    intro hmem
    have hbracket : '>' ∈ "<?xml".toList ++ body := Text.mem_of_mem_encode (by decide) hmem
    exact (hinner '>' hbracket).2 rfl
  have hopening : (bytesOf "<?xml").isPrefixOf
      (Text.encode ("<?xml".toList ++ body ++ "?>".toList ++ tail)) = true := by
    rw [Text.bytesOf_eq_encode, List.append_assoc, List.append_assoc, Text.encode_append,
      List.isPrefixOf_iff_prefix]
    exact List.prefix_append _ _
  have hsplit := splitAtBytes_append hno (Text.encode tail)
  have hcontent : Text.encode ("<?xml".toList ++ body ++ "?>".toList ++ tail) =
      Text.encode ("<?xml".toList ++ body) ++ 0x3F :: 0x3E :: Text.encode tail := by
    rw [List.append_assoc, Text.encode_append, Text.encode_append "?>".toList, hclosing]
    rfl
  have hline : commentLine comment =
      Text.encode ("<!--".toList ++ spaced comment ++ "-->\n".toList) := by
    simp only [commentLine, spaced, pairsReplaced, Text.bytesOf_eq_encode, ← Text.encode_append]
    simp
  unfold withLeadingComment
  dsimp only
  rw [hopening, if_pos rfl, Text.bytesOf_eq_encode "?>", hclosing, hcontent, hsplit, hline,
    Text.bytesOf_eq_encode "\n"]
  dsimp only
  rw [show ([0x3F, 0x3E] : Bytes).length = 2 from rfl, List.drop_succ_cons, List.drop_succ_cons,
    List.drop_zero, dropWhile_encode, ← hclosing]
  simp only [← Text.encode_append]
  simp

/-! ## Characters -/

theorem spaced_isDocumentChar (hcomment : isWritable comment) :
    ∀ c ∈ spaced comment, isDocumentChar c := by
  have hwritten : ∀ c ∈ pairsReplaced comment.toList, isDocumentChar c := fun c hc =>
    List.all_eq_true.mp hcomment c (mem_of_mem_pairsReplaced hc)
  have hspace : ∀ c ∈ " ".toList, isDocumentChar c := List.all_eq_true.mp rfl
  simp only [spaced, List.forall_mem_append]
  exact ⟨⟨hspace, hwritten⟩, hspace⟩

/-! ## Lines -/

theorem head?_plainLines (cs : List Char) : (plainLines cs).head? = some '-' ↔ cs.head? = some '-' := by
  fun_cases plainLines cs <;> simp

/-- Hyphens in a row stay in a row, and none get into one. -/
theorem pair_infix_plainLines_iff (cs : List Char) :
    "--".toList <:+: plainLines cs ↔ "--".toList <:+: cs := by
  fun_induction plainLines cs with
  | case1 cs ih =>
      rw [pair_infix_cons_iff, pair_infix_cons_iff, pair_infix_cons_iff, ih]
      simp
  | case2 cs _ ih =>
      rw [pair_infix_cons_iff, pair_infix_cons_iff, ih]
      simp
  | case3 c cs _ _ ih => rw [pair_infix_cons_iff, pair_infix_cons_iff, ih, head?_plainLines]
  | case4 => rfl

theorem skipSpace_dropWhile (cs : List Char) : skipSpace (cs.dropWhile isLineEnd) = skipSpace cs := by
  induction cs with
  | nil => rfl
  | cons c cs ih =>
      rw [List.dropWhile_cons]
      split
      · next hc =>
        have hspace : isSpace c := by
          simp only [isLineEnd, Bool.or_eq_true, beq_iff_eq] at hc
          rcases hc with rfl | rfl <;> rfl
        simpa [skipSpace, hspace] using ih
      · rfl

/-- A comment that was put in front, as it is read: with line ends as single line feeds. -/
def remarkOf (comment : String) : String := String.ofList (plainLines (spaced comment))

theorem plainLines_spaced (comment : String) : plainLines (spaced comment) =
    " ".toList ++ plainLines (pairsReplaced comment.toList) ++ " ".toList := by
  have hspace : plainLines " ".toList = " ".toList := rfl
  rw [spaced, plainLines_append fun _ => by decide, plainLines_append fun h => absurd h (by decide),
    hspace]

/-- What is written can stand in a comment if the text given has no three hyphens in a row. -/
theorem isCommentText_remarkOf_iff :
    IsCommentText (remarkOf comment).toList ↔ ¬ "---".toList <:+: comment.toList := by
  rw [remarkOf, String.toList_ofList, plainLines_spaced, isCommentText_spaced_iff,
    pair_infix_plainLines_iff, pair_infix_pairsReplaced_iff]

/-- A line that is put behind the heading has no part in the line ends around it. -/
theorem plainLines_comment (hheading : IsHeading h text) (comment : String) (cs : List Char) :
    plainLines (text ++ ("\n<!--".toList ++ spaced comment ++ "-->\n".toList ++ cs)) =
      plainLines text ++ ("\n<!--".toList ++ (remarkOf comment).toList ++ "-->\n".toList ++
        plainLines cs) := by
  have hopening : plainLines "\n<!--".toList = "\n<!--".toList := plainLines_eq_self (by decide)
  have hclosing : plainLines "-->\n".toList = "-->\n".toList := plainLines_eq_self (by decide)
  have hspaced : plainLines (spaced comment) = (remarkOf comment).toList := by
    rw [remarkOf, String.toList_ofList]
  simp only [List.append_assoc]
  rw [plainLines_append fun h => absurd h hheading.getLast?_ne,
    plainLines_append fun h => absurd h (by decide), plainLines_append fun _ => by simp,
    plainLines_append fun h => absurd h (by decide), hopening, hclosing, hspaced]

/-! ## Documents -/

/-- A document with a comment before everything else. -/
def Markup.Document.withComment (s : String) (d : Document) : Document :=
  match d.doctype with
  | some _ => { d with beforeType := .comment s :: d.beforeType }
  | none => { d with beforeRoot := .comment s :: d.beforeRoot }

namespace Markup.Faithful

/-- A comment in front says nothing about what is behind it. -/
theorem document_withComment (s : String) (w : WrittenDocument) :
    document (w.withComment s) = Document.withComment s <$> document w := by
  obtain ⟨heading, beforeType, doctype, beforeRoot, root, afterRoot⟩ := w
  -- the document type of the document is there if that of the text is, and this decides the place
  cases doctype with
  | none =>
      simp only [document, WrittenDocument.withComment, nodes, node]
      split
      · rfl
      · simp [Document.withComment]
  | some t =>
      simp only [document, WrittenDocument.withComment, nodes, node]
      split
      · rfl
      · simp [Document.withComment]

/-- What is noted is the same with a comment in front. -/
theorem run_withComment (s : String) (w : WrittenDocument) (notices : List Notice) :
    (document (w.withComment s)).run notices =
      ((document w).run notices).map fun p => (p.1.withComment s, p.2) := by
  rw [document_withComment, StateT.run_map]
  rfl

variable {d : Document}

theorem read?_eq_some_iff {bs : Bytes} : read? bs = some d ↔ ∃ cs w notices, chars? bs = some cs ∧
    Written.document? .ranged cs = some w ∧ (document w).run [] = some (d, notices) ∧
      isTaken notices := by
  simp only [read?, Option.bind_eq_bind, Option.bind_eq_some_iff]
  constructor
  · rintro ⟨cs, hcs, w, hw, ⟨d', notices⟩, hrun, htaken⟩
    split at htaken
    · next hnotices =>
      cases htaken
      exact ⟨cs, w, notices, hcs, hw, hrun, hnotices⟩
    · cases htaken
  · rintro ⟨cs, w, notices, hcs, hw, hrun, hnotices⟩
    exact ⟨cs, hcs, w, hw, (d, notices), hrun, by simp [hnotices]⟩

end Markup.Faithful

/-- The text of a document with a comment put in front is read as the comment and what is read behind
it. -/
theorem document?_comment (hheading : IsHeading h text) (hwritten : isWritable comment)
    (hchars : ∀ c ∈ text ++ tail, isDocumentChar c) :
    Written.document? .ranged (text ++ ("\n<!--".toList ++ spaced comment ++ "-->\n".toList ++
        tail.dropWhile isLineEnd)) =
      (comment? ((remarkOf comment).toList ++ "-->\n".toList ++
        plainLines (tail.dropWhile isLineEnd))).bind fun p =>
          (Written.body? .ranged (some h) p.2).map (·.withComment p.1) := by
  have hall : ∀ c ∈ text ++ ("\n<!--".toList ++ spaced comment ++ "-->\n".toList ++
      tail.dropWhile isLineEnd), isDocumentChar c := by
    obtain ⟨htext, htail⟩ := List.forall_mem_append.mp hchars
    have hopening : ∀ c ∈ "\n<!--".toList, isDocumentChar c := List.all_eq_true.mp rfl
    have hclosing : ∀ c ∈ "-->\n".toList, isDocumentChar c := List.all_eq_true.mp rfl
    simp only [List.forall_mem_append]
    exact ⟨htext, ⟨⟨hopening, spaced_isDocumentChar hwritten⟩, hclosing⟩,
      fun c hc => htail c ((List.dropWhile_sublist _).subset hc)⟩
  rw [Written.document?_eq, List.all_eq_true.mpr hall, plainLines_comment hheading,
    Heading.read?_append hheading.plain]
  simp only [Bool.not_true, Bool.false_eq_true, if_false, Option.bind_some]
  refine Written.body?_comment ?_
  simp only [List.append_assoc]
  rfl

/-- What is read of a document with a heading is read behind the heading. -/
theorem exists_of_read? (hheading : IsHeading h text) (hutf8 : h.IsUtf8)
    (hread : Faithful.read? (Text.encode (text ++ tail)) = some d) : ∃ w notices,
      (∀ c ∈ text ++ tail, isDocumentChar c) ∧
      Written.body? .ranged (some h) (plainLines tail) = some w ∧
      (Faithful.document w).run [] = some (d, notices) ∧ Faithful.isTaken notices := by
  obtain ⟨cs, w, notices, hcs, hw, hrun, htaken⟩ := Faithful.read?_eq_some_iff.mp hread
  rw [Faithful.chars?_encode hheading hutf8] at hcs
  obtain rfl := Option.some.inj hcs
  rw [Written.document?_eq] at hw
  split at hw
  · cases hw
  · next hchars =>
    have hcut : plainLines (text ++ tail) = plainLines text ++ plainLines tail :=
      plainLines_append fun hlast => absurd hlast hheading.getLast?_ne
    rw [hcut, Heading.read?_append hheading.plain, Option.bind_some] at hw
    have hall : (text ++ tail).all isDocumentChar = true := by simpa using hchars
    exact ⟨w, notices, List.all_eq_true.mp hall, hw, hrun, htaken⟩

/-- A comment without three hyphens in a row is put before everything else. -/
theorem read?_withLeadingComment (hheading : IsHeading h text) (hutf8 : h.IsUtf8)
    (hread : Faithful.read? (Text.encode (text ++ tail)) = some d) (hwritten : isWritable comment)
    (hhyphens : ¬ "---".toList <:+: comment.toList) :
    Faithful.read? (withLeadingComment (Text.encode (text ++ tail)) comment) =
      some (d.withComment (remarkOf comment)) := by
  obtain ⟨w, notices, hchars, hw, hrun, htaken⟩ := exists_of_read? hheading hutf8 hread
  rw [withLeadingComment_encode hheading, Faithful.read?_eq_some_iff]
  refine ⟨_, w.withComment (remarkOf comment), notices, Faithful.chars?_encode hheading hutf8 _, ?_, ?_,
    htaken⟩
  · have hcomment : comment? ((remarkOf comment).toList ++ "-->\n".toList ++
        plainLines (tail.dropWhile isLineEnd)) =
          some (remarkOf comment, '\n' :: plainLines (tail.dropWhile isLineEnd)) := by
      rw [comment?_eq_some_iff]
      exact ⟨isCommentText_remarkOf_iff.mpr hhyphens, by simp⟩
    -- only line ends were dropped in front of what follows
    have hblank : skipSpace ('\n' :: plainLines (tail.dropWhile isLineEnd)) =
        skipSpace (plainLines tail) :=
      calc skipSpace ('\n' :: plainLines (tail.dropWhile isLineEnd))
          = skipSpace (plainLines (tail.dropWhile isLineEnd)) := rfl
        _ = plainLines (skipSpace tail) := by rw [skipSpace_plainLines, skipSpace_dropWhile]
        _ = skipSpace (plainLines tail) := (skipSpace_plainLines tail).symm
    rw [document?_comment hheading hwritten hchars, hcomment, Option.bind_some,
      Written.body?_congr hblank, hw]
    rfl
  · rw [Faithful.run_withComment, hrun]
    rfl

/-- With three hyphens in a row, the comment of a document that is read is ended within its text. -/
theorem exists_of_read?_withLeadingComment (hheading : IsHeading h text) (hutf8 : h.IsUtf8)
    (hchars : ∀ c ∈ text ++ tail, isDocumentChar c) (hwritten : isWritable comment)
    (hhyphens : "---".toList <:+: comment.toList)
    (hread : Faithful.read? (withLeadingComment (Text.encode (text ++ tail)) comment) = some d) :
    ∃ (d' : Document) (s : String) (more : List Char), d = d'.withComment s ∧
      (remarkOf comment).toList = s.toList ++ "-->".toList ++ more := by
  -- whatever is read, it is a comment and a document behind it
  rw [withLeadingComment_encode hheading] at hread
  obtain ⟨cs, w, notices, hcs, hw, hrun, -⟩ := Faithful.read?_eq_some_iff.mp hread
  rw [Faithful.chars?_encode hheading hutf8] at hcs
  obtain rfl := Option.some.inj hcs
  rw [document?_comment hheading hwritten hchars] at hw
  obtain ⟨⟨s, behind⟩, hcomment, hw⟩ := Option.bind_eq_some_iff.mp hw
  obtain ⟨w', -, rfl⟩ := Option.map_eq_some_iff.mp hw
  rw [Faithful.run_withComment] at hrun
  obtain ⟨⟨d', notices'⟩, -, heq⟩ := Option.map_eq_some_iff.mp hrun
  cases heq
  -- the text that was written ends with a blank, so it is broken by a pair of hyphens inside
  have hbroken : ¬ IsCommentText (remarkOf comment).toList := by
    intro hremark
    exact isCommentText_remarkOf_iff.mp hremark hhyphens
  have hlast : (remarkOf comment).toList.getLast? ≠ some '-' := by
    rw [remarkOf, String.toList_ofList, plainLines_spaced, show " ".toList = [' '] from rfl,
      List.getLast?_concat]
    decide
  have hpair : "--".toList <:+: (remarkOf comment).toList := by
    by_contra hno
    exact hbroken ⟨hno, hlast⟩
  have hcut : (remarkOf comment).toList ++ "-->\n".toList ++ plainLines (tail.dropWhile isLineEnd) =
      (remarkOf comment).toList ++ "-->".toList ++ '\n' :: plainLines (tail.dropWhile isLineEnd) := by
    simp
  rw [hcut] at hcomment
  obtain ⟨more, hmore⟩ := exists_of_comment? hpair hlast hcomment
  exact ⟨d', s, more, rfl, hmore⟩

/-- The comment in front is the same in documents that are the same. -/
theorem Markup.Document.withComment_inj {d d' : Document} {s s' : String}
    (heq : d.withComment s = d'.withComment s') : s = s' := by
  obtain ⟨_, _, doctype, _, _, _⟩ := d
  obtain ⟨_, _, doctype', _, _, _⟩ := d'
  cases doctype <;> cases doctype' <;> cases heq <;> rfl

/-- A comment that is put in front of a document is read as such exactly if it has no three hyphens in a
row. If it has, the comment of every document that is read is ended within its text. -/
theorem withLeadingComment_exact (hheading : IsHeading h text) (hutf8 : h.IsUtf8)
    (hread : Faithful.read? (Text.encode (text ++ tail)) = some d) (hwritten : isWritable comment) :
    (Faithful.read? (withLeadingComment (Text.encode (text ++ tail)) comment) =
        some (d.withComment (remarkOf comment)) ↔ ¬ "---".toList <:+: comment.toList) ∧
      ("---".toList <:+: comment.toList → ∀ d' : Document,
        Faithful.read? (withLeadingComment (Text.encode (text ++ tail)) comment) = some d' →
          ∃ (d'' : Document) (s : String) (more : List Char), d' = d''.withComment s ∧
            (remarkOf comment).toList = s.toList ++ "-->".toList ++ more) := by
  obtain ⟨w, notices, hchars, -⟩ := exists_of_read? hheading hutf8 hread
  have hearly : "---".toList <:+: comment.toList → ∀ d' : Document,
      Faithful.read? (withLeadingComment (Text.encode (text ++ tail)) comment) = some d' →
        ∃ (d'' : Document) (s : String) (more : List Char), d' = d''.withComment s ∧
          (remarkOf comment).toList = s.toList ++ "-->".toList ++ more := by
    intro hhyphens d' hread'
    exact exists_of_read?_withLeadingComment hheading hutf8 hchars hwritten hhyphens hread'
  refine ⟨⟨?_, read?_withLeadingComment hheading hutf8 hread hwritten⟩, hearly⟩
  intro hread' hhyphens
  -- the comment that is read would be longer than itself
  obtain ⟨d'', s, more, heq, hmore⟩ := hearly hhyphens _ hread'
  obtain rfl := Document.withComment_inj heq
  have hlength := congrArg List.length hmore
  simp at hlength

theorem withLeadingComment_exact_of_audit : ∃ d, Faithful.read? (Text.encode
    ("<?xml version='1.0' encoding='UTF-8'?>".toList ++ "\n<a/>".toList)) = some d ∧
      Faithful.read? (withLeadingComment (Text.encode
        ("<?xml version='1.0' encoding='UTF-8'?>".toList ++ "\n<a/>".toList)) "Profile: a--b\n") =
          some (d.withComment " Profile: a-b\n ") := by
  obtain ⟨d, hd⟩ := Option.isSome_iff_exists.mp (show (Faithful.read? (Text.encode
    ("<?xml version='1.0' encoding='UTF-8'?>".toList ++ "\n<a/>".toList))).isSome by decide +kernel)
  have hremark : remarkOf "Profile: a--b\n" = " Profile: a-b\n " := by decide +kernel
  have hheading : IsHeading ⟨"1.0", some "UTF-8", none⟩
      "<?xml version='1.0' encoding='UTF-8'?>".toList :=
    isHeading_written "1.0".toList (by decide) (List.all_eq_true.mp rfl)
  have hwritten : isWritable "Profile: a--b\n" := by decide +kernel
  have hhyphens : ¬ "---".toList <:+: "Profile: a--b\n".toList := by decide +kernel
  have hexact := (withLeadingComment_exact hheading (by decide +kernel) hd hwritten).1.mpr hhyphens
  rw [hremark] at hexact
  exact ⟨d, hd, hexact⟩

/-- Three hyphens in a row make a document malformed, or end the comment early so that what follows is
markup. -/
theorem withLeadingComment_fails_of_hyphens :
    (Faithful.read? (bytesOf "<?xml version='1.0' encoding='UTF-8'?>\n<a/>")).isSome ∧
    isWritable "a---b" ∧
    (Faithful.read? (withLeadingComment
      (bytesOf "<?xml version='1.0' encoding='UTF-8'?>\n<a/>") "a---b")).isNone ∧
    isWritable "a---><!--- b" ∧
    (Faithful.read? (withLeadingComment
      (bytesOf "<?xml version='1.0' encoding='UTF-8'?>\n<a/>") "a---><!--- b")).map (·.beforeRoot) =
        some [.comment " a", .comment " b "] := by
  decide +kernel

end Conformity
