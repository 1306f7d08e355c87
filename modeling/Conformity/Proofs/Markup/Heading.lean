import Conformity.Markup.Faithful
import Conformity.Proofs.Text.Trim
import Conformity.Proofs.Text.Utf8
import Mathlib.Data.List.TakeWhile

/-!
# Headings

A heading tells the version of a document and, if it likes, its character set and whether it stands
alone (`IsHeading`). Headings are read from exactly the texts that begin with one, as what they tell
(`Heading.read?_eq_some_iff`). A heading remains one when its line ends become single line feeds
(`IsHeading.plain`), and its only closing bracket is at its end (`IsHeading.exists_body`).
-/

namespace Conformity.Markup

variable {name value text blanks cs rest : List Char} {o : Option (List Char)} {h : Heading} {c : Char}

/-- A property of all characters of a text is tested on the text, and not on all characters there are. -/
theorem forall_mem_of_all {p : Char → Prop} [DecidablePred p] (h : cs.all fun c => decide (p c)) :
    ∀ c ∈ cs, p c := by
  simpa using h

/-! ## The form of a heading -/

/-- A run of blanks. -/
def AreBlanks (cs : List Char) : Prop := ∀ c ∈ cs, isSpace c

/-- A part of a heading: its name, an equals sign with blanks around it, and its value in quotes. -/
inductive IsPart (name value : List Char) : List Char → Prop
  | mk {before behind : List Char} {quote : Char} : AreBlanks before → AreBlanks behind →
      quote = '"' ∨ quote = '\'' → value ≠ [] → (∀ c ∈ value, isHeadingChar c) →
        IsPart name value (name ++ before ++ '=' :: behind ++ quote :: value ++ [quote])

/-- A part that may be missing stands behind blanks. -/
inductive IsOptionalPart (name : List Char) : Option (List Char) → List Char → Prop
  | missing : IsOptionalPart name none []
  | there {blanks value part : List Char} : AreBlanks blanks → blanks ≠ [] → IsPart name value part →
      IsOptionalPart name (some value) (blanks ++ part)

/-- The word for a truth value. -/
def wordOf : Bool → List Char
  | true => "yes".toList
  | false => "no".toList

/-- A heading as it is written. -/
inductive IsHeading : Heading → List Char → Prop
  | mk {blanks version versionPart encodingPart standalonePart ending : List Char}
      {encoding : Option (List Char)} {standalone : Option Bool} :
      AreBlanks blanks → blanks ≠ [] →
      IsPart "version".toList version versionPart →
      IsOptionalPart "encoding".toList encoding encodingPart →
      (∀ label ∈ encoding, ∀ c ∈ label.head?, c.isAlpha) →
      IsOptionalPart "standalone".toList (standalone.map wordOf) standalonePart →
      AreBlanks ending →
        IsHeading ⟨String.ofList version, encoding.map String.ofList, standalone⟩
          ("<?xml".toList ++ blanks ++ versionPart ++ encodingPart ++ standalonePart ++ ending ++
            "?>".toList)

/-- The heading of a document that is written after a change. -/
theorem isHeading_written (version : List Char) (hne : version ≠ [])
    (hversion : ∀ c ∈ version, isHeadingChar c) :
    IsHeading ⟨String.ofList version, some "UTF-8", none⟩
      ("<?xml version='".toList ++ version ++ "' encoding='UTF-8'?>".toList) := by
  have hnone : AreBlanks [] := List.forall_mem_nil _
  have hblank : AreBlanks " ".toList := by
    rintro c hc
    rw [List.mem_singleton.mp hc]
    rfl
  have hquote : '\'' = '"' ∨ '\'' = '\'' := .inr rfl
  have hencoding : IsOptionalPart "encoding".toList (some "UTF-8".toList) " encoding='UTF-8'".toList :=
    .there hblank (by decide)
      (.mk hnone hnone hquote (by decide) (forall_mem_of_all (by decide)))
  have hstandalone : IsOptionalPart "standalone".toList ((none : Option Bool).map wordOf) [] := .missing
  have hletter : ∀ label ∈ some "UTF-8".toList, ∀ c ∈ label.head?, c.isAlpha := by
    intro label hlabel c hc
    cases hlabel
    cases hc
    rfl
  have hheading := IsHeading.mk hblank (by decide) (.mk hnone hnone hquote hne hversion) hencoding
    hletter hstandalone hnone
  simpa using hheading

/-! ## Reading blanks -/

theorem skipSpace_append (hblanks : AreBlanks blanks) (rest : List Char) :
    skipSpace (blanks ++ rest) = skipSpace rest := by
  induction blanks with
  | nil => rfl
  | cons c blanks ih =>
      obtain ⟨hc, hrest⟩ := List.forall_mem_cons.mp hblanks
      simpa [skipSpace, hc] using ih hrest

theorem skipSpace_eq_self (hc : ¬ isSpace c) (rest : List Char) :
    skipSpace (c :: rest) = c :: rest := by
  simp [skipSpace, hc]

theorem spaces?_append (hblanks : AreBlanks blanks) (hne : blanks ≠ []) (rest : List Char) :
    spaces? (blanks ++ rest) = some (skipSpace rest) := by
  cases blanks with
  | nil => exact absurd rfl hne
  | cons c blanks =>
      obtain ⟨hc, hbehind⟩ := List.forall_mem_cons.mp hblanks
      simp [spaces?, hc, skipSpace_append hbehind]

/-! ## Reading parts -/

/-- No character of a heading's value is a quote or ends the heading. -/
theorem ne_of_isHeadingChar {d : Char} (hc : isHeadingChar c) (hd : d = '"' ∨ d = '\'' ∨ d = '>') :
    c ≠ d := by
  rintro rfl
  rcases hd with rfl | rfl | rfl <;> exact absurd hc (by decide)

theorem literal?_append {quote : Char} (hquote : quote = '"' ∨ quote = '\'')
    (hvalue : ∀ c ∈ value, isHeadingChar c) (rest : List Char) :
    literal? (quote :: value ++ quote :: rest) = some (value, rest) := by
  have hno : ∀ c ∈ value, c != quote := by
    intro c hc
    have hne : c ≠ quote := ne_of_isHeadingChar (hvalue c hc) (hquote.imp_right .inl)
    simpa using hne
  have hquotes : (quote == '"' || quote == '\'') = true := by
    rcases hquote with rfl | rfl <;> rfl
  have htake : (value ++ quote :: rest).takeWhile (· != quote) = value := by
    rw [List.takeWhile_append_of_pos hno]
    simp
  have hdrop : (value ++ quote :: rest).dropWhile (· != quote) = quote :: rest := by
    rw [List.dropWhile_append_of_pos hno]
    simp
  simp only [literal?, List.cons_append, hquotes, htake, hdrop, if_true]

theorem not_isSpace_of_quote {quote : Char} (hquote : quote = '"' ∨ quote = '\'') :
    ¬ isSpace quote := by
  rcases hquote with rfl | rfl <;> decide

theorem equals?_append {before behind : List Char} {quote : Char} (hbefore : AreBlanks before)
    (hbehind : AreBlanks behind) (hquote : quote = '"' ∨ quote = '\'') (rest : List Char) :
    equals? (before ++ '=' :: (behind ++ quote :: rest)) = some (quote :: rest) := by
  have hequals : skipSpace (before ++ '=' :: (behind ++ quote :: rest)) =
      '=' :: (behind ++ quote :: rest) := by
    rw [skipSpace_append hbefore, skipSpace_eq_self (by decide)]
  have hvalue : skipSpace (behind ++ quote :: rest) = quote :: rest := by
    rw [skipSpace_append hbehind, skipSpace_eq_self (not_isSpace_of_quote hquote)]
  simp only [equals?, hequals, hvalue]

theorem headingPart?_append {name : String} (hpart : IsPart name.toList value text)
    (rest : List Char) : headingPart? name (text ++ rest) = some (value, rest) := by
  cases hpart with
  | @mk before behind quote hbefore hbehind hquote hne hvalue =>
      have hname : Text.after? name.toList
          (name.toList ++ before ++ '=' :: behind ++ quote :: value ++ [quote] ++ rest) =
            some (before ++ '=' :: (behind ++ quote :: value ++ quote :: rest)) := by
        rw [Text.after?_eq_some_iff]
        simp
      have hequals := equals?_append hbefore hbehind hquote (value ++ quote :: rest)
      rw [headingPart?, hname]
      simp only [Option.bind_eq_bind, Option.bind_some, List.append_assoc, List.cons_append, hequals]
      rw [← List.cons_append, literal?_append hquote hvalue]
      simpa using ⟨hne, hvalue⟩

/-- A part begins with its name. -/
theorem IsPart.begins (hpart : IsPart name value text) : name <+: text := by
  cases hpart with
  | mk => simp only [List.append_assoc, List.prefix_append]

theorem spaces?_cases (cs : List Char) : spaces? cs = none ∨ spaces? cs = some (skipSpace cs) := by
  cases cs with
  | nil => exact .inl rfl
  | cons c cs => by_cases hc : isSpace c <;> simp [spaces?, skipSpace, hc]

theorem optionalPart_append (name : String) {first : Char} {others : List Char}
    (hname : name.toList = first :: others) (hfirst : ¬ isSpace first)
    (hpart : IsOptionalPart name.toList o text)
    (hrest : o = none → ¬ name.toList <+: skipSpace rest) :
    optionalPart name (text ++ rest) = some (o, rest) := by
  cases hpart with
  | missing =>
      have hno : Text.startsWith name.toList (skipSpace rest) = false := by
        rw [Bool.eq_false_iff, ne_eq, Text.startsWith_iff]
        exact hrest rfl
      unfold optionalPart
      rw [List.nil_append]
      rcases spaces?_cases rest with hspaces | hspaces
      · rw [hspaces]
      · simp [hspaces, hno]
  | @there blanks value part hblanks hne hpart =>
      have hstart : name.toList <+: part ++ rest := hpart.begins.trans (List.prefix_append _ _)
      have hskip : skipSpace (part ++ rest) = part ++ rest := by
        obtain ⟨ds, hds⟩ := hstart
        rw [← hds, hname]
        exact skipSpace_eq_self hfirst _
      unfold optionalPart
      rw [List.append_assoc, spaces?_append hblanks hne, hskip]
      simp [Text.startsWith_iff.mpr hstart, headingPart?_append hpart]

/-! ## What comes next -/

theorem head?_of_begins (hbegins : c :: text <+: cs) : cs.head? = some c := by
  obtain ⟨rest, rfl⟩ := hbegins
  rfl

/-- Behind blanks stands the name of a part, if there is one. -/
theorem head?_skipSpace_optionalPart (hname : ¬ isSpace c) (hpart : IsOptionalPart (c :: name) o text)
    (rest : List Char) : text = [] ∨ (skipSpace (text ++ rest)).head? = some c := by
  cases hpart with
  | missing => exact .inl rfl
  | @there blanks value part hblanks _ hpart =>
      obtain ⟨ds, hds⟩ := hpart.begins
      refine .inr ?_
      rw [List.append_assoc, skipSpace_append hblanks, ← hds, List.cons_append, List.cons_append,
        skipSpace_eq_self hname]
      rfl

/-! ## Reading a heading -/

theorem yesNo?_wordOf (b : Bool) : yesNo? (wordOf b) = some b := by
  cases b <;> decide

theorem Heading.body?_append {version versionPart encodingPart standalonePart ending : List Char}
    {encoding : Option (List Char)} {standalone : Option Bool}
    (hblanks : AreBlanks blanks) (hne : blanks ≠ [])
    (hversion : IsPart "version".toList version versionPart)
    (hencoding : IsOptionalPart "encoding".toList encoding encodingPart)
    (hletter : ∀ label ∈ encoding, ∀ c ∈ label.head?, c.isAlpha)
    (hstandalone : IsOptionalPart "standalone".toList (standalone.map wordOf) standalonePart)
    (hending : AreBlanks ending) (rest : List Char) :
    Heading.body? (blanks ++ (versionPart ++ (encodingPart ++ (standalonePart ++
      (ending ++ ("?>".toList ++ rest)))))) =
        some (⟨String.ofList version, encoding.map String.ofList, standalone⟩, rest) := by
  -- each part begins with its name, and what comes last with the end of the heading
  have hend : skipSpace (ending ++ ("?>".toList ++ rest)) = "?>".toList ++ rest := by
    rw [skipSpace_append hending]
    exact skipSpace_eq_self (by decide) _
  have hfirst : skipSpace (versionPart ++ (encodingPart ++ (standalonePart ++
      (ending ++ ("?>".toList ++ rest))))) = versionPart ++ (encodingPart ++ (standalonePart ++
        (ending ++ ("?>".toList ++ rest)))) := by
    obtain ⟨ds, hds⟩ := hversion.begins
    rw [← hds]
    exact skipSpace_eq_self (by decide) _
  have hnoEncoding : ¬ "encoding".toList <+: skipSpace (standalonePart ++
      (ending ++ ("?>".toList ++ rest))) := by
    intro hbegins
    have he := head?_of_begins hbegins
    rcases head?_skipSpace_optionalPart (by decide) hstandalone
      (ending ++ ("?>".toList ++ rest)) with hnil | hs
    · rw [hnil, List.nil_append, hend] at he
      exact absurd (show some '?' = some 'e' from he) (by decide)
    · rw [hs] at he
      exact absurd he (by decide)
  have hnoStandalone : ¬ "standalone".toList <+: skipSpace (ending ++ ("?>".toList ++ rest)) := by
    intro hbegins
    have hs := head?_of_begins hbegins
    rw [hend] at hs
    exact absurd (show some '?' = some 's' from hs) (by decide)
  have hlabel : ((encoding.bind (·.head?)).any fun c => !c.isAlpha) = false := by
    rw [Option.any_eq_false]
    intro c hc
    obtain ⟨label, hlabel, hhead⟩ := Option.bind_eq_some_iff.mp hc
    simp [hletter label hlabel c hhead]
  unfold Heading.body?
  rw [spaces?_append hblanks hne, hfirst]
  simp only [Option.bind_eq_bind, Option.bind_some, headingPart?_append hversion]
  rw [optionalPart_append "encoding" rfl (by decide) hencoding fun _ => hnoEncoding]
  simp only [Option.bind_some]
  rw [optionalPart_append "standalone" rfl (by decide) hstandalone fun _ => hnoStandalone]
  simp only [Option.bind_some, hlabel, hend, Text.after?_append]
  cases standalone with
  | none => rfl
  | some b => simp [yesNo?_wordOf]

/-- A heading is read as what it tells, whatever stands behind it. -/
theorem Heading.read?_append (hheading : IsHeading h text) (rest : List Char) :
    Heading.read? (text ++ rest) = some (some h, rest) := by
  cases hheading with
  | @mk blanks version versionPart encodingPart standalonePart ending encoding standalone hblanks hne
      hversion hencoding hletter hstandalone hending =>
      have hbody := body?_append hblanks hne hversion hencoding hletter hstandalone hending rest
      cases blanks with
      | nil => exact absurd rfl hne
      | cons c blanks =>
          have hc : isSpace c := hblanks c List.mem_cons_self
          have hopening : Text.after? "<?xml".toList ("<?xml".toList ++ c :: blanks ++ versionPart ++
              encodingPart ++ standalonePart ++ ending ++ "?>".toList ++ rest) = some (c :: (blanks ++
                (versionPart ++ (encodingPart ++ (standalonePart ++
                  (ending ++ ("?>".toList ++ rest))))))) := by
            rw [Text.after?_eq_some_iff]
            simp only [List.append_assoc, List.cons_append]
          rw [List.cons_append] at hbody
          rw [Heading.read?, hopening]
          simp only [hc, Bool.true_or, if_true, hbody, Option.map_some]

/-! ## What is read is a heading -/

theorem exists_blanks (cs : List Char) : ∃ blanks, AreBlanks blanks ∧ cs = blanks ++ skipSpace cs :=
  ⟨cs.takeWhile isSpace, fun _ hc => List.mem_takeWhile_imp hc, List.takeWhile_append_dropWhile.symm⟩

theorem exists_of_spaces? (hspaces : spaces? cs = some rest) :
    ∃ blanks, AreBlanks blanks ∧ blanks ≠ [] ∧ cs = blanks ++ rest := by
  cases cs with
  | nil => cases hspaces
  | cons c cs =>
      rw [spaces?] at hspaces
      split at hspaces
      · next hc =>
        cases hspaces
        obtain ⟨blanks, hblanks, hcs⟩ := exists_blanks cs
        exact ⟨c :: blanks, List.forall_mem_cons.mpr ⟨hc, hblanks⟩, by simp, congrArg (c :: ·) hcs⟩
      · cases hspaces

theorem exists_of_equals? (hequals : equals? cs = some rest) : ∃ before behind,
    AreBlanks before ∧ AreBlanks behind ∧ cs = before ++ '=' :: (behind ++ rest) := by
  obtain ⟨before, hbefore, hcs⟩ := exists_blanks cs
  unfold equals? at hequals
  split at hequals
  · next ds hds =>
    cases hequals
    obtain ⟨behind, hbehind, hrest⟩ := exists_blanks ds
    exact ⟨before, behind, hbefore, hbehind, by rw [← hrest, ← hds]; exact hcs⟩
  · cases hequals

theorem exists_of_literal? (hliteral : literal? cs = some (value, rest)) :
    ∃ quote, (quote = '"' ∨ quote = '\'') ∧ cs = quote :: value ++ quote :: rest := by
  unfold literal? at hliteral
  split at hliteral
  · next quote ds =>
    split at hliteral
    · next hquote =>
      have hcut := ds.takeWhile_append_dropWhile (p := (· != quote))
      split at hliteral
      · next d after hdrop =>
        cases hliteral
        have hd : d = quote := by
          have hstop := List.head?_dropWhile_not (· != quote) ds
          rw [hdrop] at hstop
          simpa using hstop
        rw [hdrop, hd] at hcut
        exact ⟨quote, by simpa using hquote, congrArg (quote :: ·) hcut.symm⟩
      · cases hliteral
    · cases hliteral
  · cases hliteral

theorem exists_of_headingPart? {name : String} (hread : headingPart? name cs = some (value, rest)) :
    ∃ text, IsPart name.toList value text ∧ cs = text ++ rest := by
  unfold headingPart? at hread
  obtain ⟨ds, hname, hread⟩ := Option.bind_eq_some_iff.mp hread
  obtain ⟨es, hequals, hread⟩ := Option.bind_eq_some_iff.mp hread
  obtain ⟨⟨v, fs⟩, hliteral, hread⟩ := Option.bind_eq_some_iff.mp hread
  dsimp only at hread
  split at hread
  · cases hread
  · next hvalue =>
    cases hread
    obtain ⟨before, behind, hbefore, hbehind, rfl⟩ := exists_of_equals? hequals
    obtain ⟨quote, hquote, rfl⟩ := exists_of_literal? hliteral
    rw [Text.after?_eq_some_iff] at hname
    simp only [Bool.or_eq_true, not_or, List.isEmpty_iff, Bool.not_eq_true', Bool.not_eq_false,
      List.all_eq_true] at hvalue
    exact ⟨_, .mk hbefore hbehind hquote hvalue.1 hvalue.2, by simpa using hname⟩

theorem exists_of_optionalPart {name : String} (hread : optionalPart name cs = some (o, rest)) :
    ∃ text, IsOptionalPart name.toList o text ∧ cs = text ++ rest := by
  unfold optionalPart at hread
  split at hread
  · cases hread
    exact ⟨[], .missing, rfl⟩
  · next ds hspaces =>
    obtain ⟨blanks, hblanks, hne, rfl⟩ := exists_of_spaces? hspaces
    split at hread
    · obtain ⟨⟨value, es⟩, hvalue, heq⟩ := Option.map_eq_some_iff.mp hread
      cases heq
      obtain ⟨part, hpart, rfl⟩ := exists_of_headingPart? hvalue
      exact ⟨_, .there hblanks hne hpart, (List.append_assoc ..).symm⟩
    · cases hread
      exact ⟨[], .missing, rfl⟩

theorem eq_wordOf_of_yesNo? {b : Bool} (hread : yesNo? cs = some b) : cs = wordOf b := by
  unfold yesNo? at hread
  split at hread
  · next hyes =>
    cases hread
    exact eq_of_beq hyes
  · split at hread
    · next hno =>
      cases hread
      exact eq_of_beq hno
    · cases hread

theorem Heading.exists_of_body? (hread : Heading.body? cs = some (h, rest)) :
    ∃ text, IsHeading h ("<?xml".toList ++ text) ∧ cs = text ++ rest := by
  unfold Heading.body? at hread
  obtain ⟨r₁, hread₁, hread⟩ := Option.bind_eq_some_iff.mp hread
  obtain ⟨⟨version, r₂⟩, hread₂, hread⟩ := Option.bind_eq_some_iff.mp hread
  obtain ⟨⟨encoding, r₃⟩, hread₃, hread⟩ := Option.bind_eq_some_iff.mp hread
  obtain ⟨⟨standalone, r₄⟩, hread₄, hread⟩ := Option.bind_eq_some_iff.mp hread
  dsimp only at hread hread₂ hread₃ hread₄
  obtain ⟨blanks, hblanks, hne, hcs⟩ := exists_of_spaces? hread₁
  obtain ⟨versionPart, hversion, hr₁⟩ := exists_of_headingPart? hread₂
  obtain ⟨encodingPart, hencoding, hr₂⟩ := exists_of_optionalPart hread₃
  obtain ⟨standalonePart, hstandalone, hr₃⟩ := exists_of_optionalPart hread₄
  obtain ⟨ending, hending, hr₄⟩ := exists_blanks r₄
  split at hread
  · cases hread
  · next hletter =>
    have hletter' : ∀ label ∈ encoding, ∀ c ∈ label.head?, c.isAlpha := by
      rintro label rfl c hc
      rw [Option.bind_some, Option.mem_def.mp hc] at hletter
      simpa using hletter
    -- what is left is the word for the truth value, and then the end
    have hrest : ∃ b : Option Bool, standalone = b.map wordOf ∧
        h = ⟨String.ofList version, encoding.map String.ofList, b⟩ ∧
        Text.after? "?>".toList (skipSpace r₄) = some rest := by
      cases standalone with
      | none =>
          obtain ⟨_, hnone, hread⟩ := Option.bind_eq_some_iff.mp hread
          cases hnone
          obtain ⟨_, hafter, hread⟩ := Option.bind_eq_some_iff.mp hread
          cases hread
          exact ⟨none, rfl, rfl, hafter⟩
      | some word =>
          obtain ⟨_, hword, hread⟩ := Option.bind_eq_some_iff.mp hread
          obtain ⟨b, hb, rfl⟩ := Option.map_eq_some_iff.mp hword
          obtain ⟨_, hafter, hread⟩ := Option.bind_eq_some_iff.mp hread
          cases hread
          exact ⟨some b, congrArg some (eq_wordOf_of_yesNo? hb), rfl, hafter⟩
    obtain ⟨b, rfl, rfl, hafter⟩ := hrest
    rw [Text.after?_eq_some_iff.mp hafter] at hr₄
    refine ⟨blanks ++ versionPart ++ encodingPart ++ standalonePart ++ ending ++ "?>".toList, ?_, ?_⟩
    · have hheading := IsHeading.mk hblanks hne hversion hencoding hletter' hstandalone hending
      simpa only [List.append_assoc] using hheading
    · rw [hcs, hr₁, hr₂, hr₃, hr₄]
      simp only [List.append_assoc]

/-- A heading is read from exactly the texts that begin with one. -/
theorem Heading.read?_eq_some_iff : Heading.read? cs = some (some h, rest) ↔
    ∃ text, IsHeading h text ∧ cs = text ++ rest := by
  constructor
  · intro hread
    unfold Heading.read? at hread
    split at hread
    · next c ds hafter =>
      split at hread
      · obtain ⟨⟨h', es⟩, hbody, heq⟩ := Option.map_eq_some_iff.mp hread
        cases heq
        obtain ⟨text, htext, hds⟩ := exists_of_body? hbody
        rw [Text.after?_eq_some_iff, hds] at hafter
        exact ⟨_, htext, by rw [hafter, List.append_assoc]⟩
      · cases hread
    · cases hread
  · rintro ⟨text, hheading, rfl⟩
    exact read?_append hheading rest

/-! ## Line ends -/

theorem plainLines_cons (hc : c ≠ '\r') (cs : List Char) :
    plainLines (c :: cs) = c :: plainLines cs :=
  plainLines.eq_3 c cs (fun _ h _ => hc h) hc

theorem plainLines_eq_self (hcs : '\r' ∉ cs) : plainLines cs = cs := by
  induction cs with
  | nil => rfl
  | cons c cs ih =>
      rw [List.mem_cons, not_or] at hcs
      rw [plainLines_cons (Ne.symm hcs.1), ih hcs.2]

/-- A text may be cut everywhere but within a line end of two characters. -/
theorem plainLines_append (hcut : cs.getLast? = some '\r' → rest.head? ≠ some '\n') :
    plainLines (cs ++ rest) = plainLines cs ++ plainLines rest := by
  -- the end of a text is the end of what follows its first characters
  have hend : ∀ (first : List Char) {cs : List Char},
      ((first ++ cs).getLast? = some '\r' → rest.head? ≠ some '\n') →
        cs.getLast? = some '\r' → rest.head? ≠ some '\n' := by
    intro first cs h hlast
    exact h (by rw [List.getLast?_append, hlast, Option.some_or])
  fun_induction plainLines cs with
  | case1 cs ih =>
      rw [List.cons_append, List.cons_append, plainLines, ih (hend ['\r', '\n'] hcut),
        List.cons_append]
  | case2 cs hno ih =>
      have hno' : ∀ ds, cs ++ rest = '\n' :: ds → False := by
        intro ds hds
        cases cs with
        | nil => exact hcut rfl (congrArg List.head? hds)
        | cons c cs => exact hno cs (by rw [(List.cons.inj hds).1])
      rw [List.cons_append, plainLines.eq_2 _ hno', ih (hend ['\r'] hcut), List.cons_append]
  | case3 c cs _ hc ih =>
      rw [List.cons_append, plainLines_cons hc, ih (hend [c] hcut), List.cons_append]
  | case4 => rfl

theorem skipSpace_plainLines (cs : List Char) :
    skipSpace (plainLines cs) = plainLines (skipSpace cs) := by
  fun_induction plainLines cs with
  | case1 cs ih => exact ih
  | case2 cs _ ih => exact ih
  | case3 c cs _ hc ih =>
      by_cases hspace : isSpace c
      · simpa [skipSpace, hspace] using ih
      · rw [skipSpace_eq_self hspace, skipSpace_eq_self hspace, plainLines_cons hc]
  | case4 => rfl

theorem plainLines_eq_nil_iff : plainLines cs = [] ↔ cs = [] := by
  fun_cases plainLines cs <;> simp

theorem AreBlanks.plain (hblanks : AreBlanks blanks) : AreBlanks (plainLines blanks) := by
  fun_induction plainLines blanks with
  | case1 cs ih =>
      have hcs : AreBlanks cs := fun c hc => hblanks c (by simp [hc])
      exact List.forall_mem_cons.mpr ⟨rfl, ih hcs⟩
  | case2 cs _ ih =>
      exact List.forall_mem_cons.mpr ⟨rfl, ih (List.forall_mem_cons.mp hblanks).2⟩
  | case3 c cs _ _ ih =>
      obtain ⟨hc, hcs⟩ := List.forall_mem_cons.mp hblanks
      exact List.forall_mem_cons.mpr ⟨hc, ih hcs⟩
  | case4 => exact hblanks

/-- A part ends with a quote. -/
theorem IsPart.getLast?_ne (hpart : IsPart name value text) : text.getLast? ≠ some '\r' := by
  cases hpart with
  | mk _ _ hquote _ _ =>
      rw [List.getLast?_concat]
      rcases hquote with rfl | rfl <;> decide

theorem IsPart.plain (hname : '\r' ∉ name) (hpart : IsPart name value text) :
    IsPart name value (plainLines text) := by
  cases hpart with
  | @mk before behind quote hbefore hbehind hquote hne hvalue =>
      have hrest : plainLines (quote :: value ++ [quote]) = quote :: value ++ [quote] := by
        refine plainLines_eq_self ?_
        have hno : '\r' ∉ value := fun h => absurd (hvalue _ h) (by decide)
        rcases hquote with rfl | rfl <;> simp [hno]
      have hfront : (quote :: value ++ [quote]).head? ≠ some '\n' := by
        rcases hquote with rfl | rfl <;> simp
      have hplain : plainLines (name ++ before ++ '=' :: behind ++ quote :: value ++ [quote]) =
          name ++ plainLines before ++ '=' :: plainLines behind ++ quote :: value ++ [quote] := by
        rw [List.append_assoc (name ++ before ++ '=' :: behind), plainLines_append fun _ => hfront,
          hrest, plainLines_append fun _ => by simp, plainLines_cons (by decide),
          plainLines_append fun h => absurd (List.mem_of_getLast? h) hname, plainLines_eq_self hname,
          List.append_assoc _ (quote :: value)]
      rw [hplain]
      exact .mk hbefore.plain hbehind.plain hquote hne hvalue

theorem IsOptionalPart.getLast?_ne (hpart : IsOptionalPart name o text) :
    text.getLast? ≠ some '\r' := by
  cases hpart with
  | missing => simp
  | @there blanks value part _ _ hpart =>
      have hlast := hpart.getLast?_ne
      obtain ⟨_, _, _, _, _⟩ := hpart
      rw [List.getLast?_append, List.getLast?_concat] at *
      exact hlast

theorem IsOptionalPart.plain (hname : '\r' ∉ c :: name) (hc : c ≠ '\n')
    (hpart : IsOptionalPart (c :: name) o text) : IsOptionalPart (c :: name) o (plainLines text) := by
  cases hpart with
  | missing => exact .missing
  | @there blanks value part hblanks hne hpart =>
      have hcut : part.head? ≠ some '\n' := by
        rw [head?_of_begins hpart.begins]
        simpa using hc
      rw [plainLines_append fun _ => hcut]
      exact .there hblanks.plain (mt plainLines_eq_nil_iff.mp hne) (hpart.plain hname)

/-- A heading is one whatever line ends its blanks are made of. -/
theorem IsHeading.plain (hheading : IsHeading h text) : IsHeading h (plainLines text) := by
  cases hheading with
  | @mk blanks version versionPart encodingPart standalonePart ending encoding standalone hblanks hne
      hversion hencoding hletter hstandalone hending =>
      have hfirst : ∀ rest, (versionPart ++ rest).head? ≠ some '\n' := by
        intro rest
        rw [head?_of_begins (hversion.begins.trans (List.prefix_append _ _))]
        decide
      have hopening : plainLines "<?xml".toList = "<?xml".toList := plainLines_eq_self (by decide)
      have hclosing : plainLines "?>".toList = "?>".toList := plainLines_eq_self (by decide)
      have hplain : plainLines ("<?xml".toList ++ blanks ++ versionPart ++ encodingPart ++
          standalonePart ++ ending ++ "?>".toList) = "<?xml".toList ++ plainLines blanks ++
            plainLines versionPart ++ plainLines encodingPart ++ plainLines standalonePart ++
              plainLines ending ++ "?>".toList := by
        simp only [List.append_assoc]
        rw [plainLines_append fun h => absurd h (by decide), hopening,
          plainLines_append fun _ => hfirst _,
          plainLines_append fun h => absurd h hversion.getLast?_ne,
          plainLines_append fun h => absurd h hencoding.getLast?_ne,
          plainLines_append fun h => absurd h hstandalone.getLast?_ne,
          plainLines_append fun _ => by decide, hclosing]
      rw [hplain]
      exact .mk hblanks.plain (mt plainLines_eq_nil_iff.mp hne) (hversion.plain (by decide))
        (hencoding.plain (by decide) (by decide)) hletter (hstandalone.plain (by decide) (by decide))
        hending.plain

/-! ## The end of a heading -/

/-- A character that may stand inside a heading: ASCII, and no closing bracket. -/
def IsInner (c : Char) : Prop := c.toNat < 0x80 ∧ c ≠ '>'

instance (c : Char) : Decidable (IsInner c) := inferInstanceAs (Decidable (_ ∧ _))

theorem isInner_of_isSpace (hc : isSpace c) : IsInner c := by
  simp only [isSpace, Bool.or_eq_true, beq_iff_eq] at hc
  rcases hc with ((rfl | rfl) | rfl) | rfl <;> decide

theorem isInner_of_isHeadingChar (hc : isHeadingChar c) : IsInner c := by
  refine ⟨?_, ne_of_isHeadingChar hc (.inr (.inr rfl))⟩
  simp only [isHeadingChar, Bool.or_eq_true, beq_iff_eq] at hc
  rcases hc with ((hc | rfl) | rfl) | rfl
  · exact (Text.toNat_bounds_of_isAlphanum hc).2
  all_goals decide

theorem AreBlanks.isInner (hblanks : AreBlanks blanks) : ∀ c ∈ blanks, IsInner c :=
  fun c hc => isInner_of_isSpace (hblanks c hc)

theorem IsPart.isInner (hname : ∀ c ∈ name, IsInner c) (hpart : IsPart name value text) :
    ∀ c ∈ text, IsInner c := by
  cases hpart with
  | @mk before behind quote hbefore hbehind hquote _ hvalue =>
      have hquote' : IsInner quote := by rcases hquote with rfl | rfl <;> decide
      have hvalue' : ∀ c ∈ value, IsInner c := fun c hc => isInner_of_isHeadingChar (hvalue c hc)
      have hequals : IsInner '=' := by decide
      simp only [List.forall_mem_append, List.forall_mem_cons]
      exact ⟨⟨⟨⟨hname, hbefore.isInner⟩, hequals, hbehind.isInner⟩, hquote', hvalue'⟩, hquote', by simp⟩

theorem IsOptionalPart.isInner (hname : ∀ c ∈ name, IsInner c) (hpart : IsOptionalPart name o text) :
    ∀ c ∈ text, IsInner c := by
  cases hpart with
  | missing => simp
  | there hblanks _ hpart => exact List.forall_mem_append.mpr ⟨hblanks.isInner, hpart.isInner hname⟩

/-- The only closing bracket of a heading is at its end. -/
theorem IsHeading.exists_body (hheading : IsHeading h text) : ∃ body,
    text = "<?xml".toList ++ body ++ "?>".toList ∧ ∀ c ∈ "<?xml".toList ++ body, IsInner c := by
  cases hheading with
  | @mk blanks version versionPart encodingPart standalonePart ending encoding standalone hblanks hne
      hversion hencoding hletter hstandalone hending =>
      refine ⟨blanks ++ versionPart ++ encodingPart ++ standalonePart ++ ending, ?_, ?_⟩
      · simp only [List.append_assoc]
      · have hopening : ∀ c ∈ "<?xml".toList, IsInner c := forall_mem_of_all (by decide)
        have hversion' := hversion.isInner (forall_mem_of_all (by decide))
        have hencoding' := hencoding.isInner (forall_mem_of_all (by decide))
        have hstandalone' := hstandalone.isInner (forall_mem_of_all (by decide))
        simp only [List.forall_mem_append]
        exact ⟨hopening, ⟨⟨⟨hblanks.isInner, hversion'⟩, hencoding'⟩, hstandalone'⟩, hending.isInner⟩

theorem IsHeading.getLast?_ne (hheading : IsHeading h text) : text.getLast? ≠ some '\r' := by
  obtain ⟨body, rfl, -⟩ := hheading.exists_body
  rw [show "?>".toList = ['?'] ++ ['>'] from rfl, ← List.append_assoc, List.getLast?_concat]
  decide

end Conformity.Markup
