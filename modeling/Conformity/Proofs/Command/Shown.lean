import Conformity.Proofs.Command.Report

/-!
# What a command shows of its findings

The suppression rules of a profile stand in a grid, and the texts in its cells are styled text as well. As
long as no word is too wide for its column, the patterns of the rules are shown as they are exactly if they
are plain (`showsPatterns_iff`), and if all other texts of the profile can be shown, so that the command does
not break off (`outcome_showProfile_iff`).

So whatever a document is validated against, and whatever a profile holds: the command shows what it has
found, character for character, exactly if no text in it has a meaning for the terminal
(`findings_shown_iff`). Messages and patterns are full of brackets, and so they need not be shown as they are
(`findings_hidden_of_tags`).
-/

namespace Conformity.Session

open Console (IsPlain IsReadable TagFault linesOf trimExcess)
open Console.Grid (cellParts)
open ReportLine (markup)
open Text (split trimEnd width)

/-! ## Showing a profile -/

/-- The profile that is asked for. -/
def profileFound (around : Surroundings) (config : Option String) (name : String) :
    Work (Option Profile) := do
  let w ← workspace around config
  let _ ← reloadProfiles w
  return (← get).state.snapshot.profile? (some name)

/-- The heading of a profile. -/
def heading (p : Profile) : String := styled "bold" p.name ++ " " ++ p.description

/-- Which profile it extends. -/
def extension (parent : String) : String := styled "dim" ("extends " ++ parent)

/-- The suppression rules of a profile. -/
def suppressionGrid (p : Profile) : Console.Grid where
  title := "Suppression rules"
  columns := [⟨"Match", false⟩, ⟨"Pattern", false⟩, ⟨"Scope", false⟩, ⟨"Description", false⟩]
  rows := p.rules.map fun r =>
    [r.mode.name, r.pattern, if r.isGlobal then "*" else ", ".intercalate r.scope,
      r.description.getD ""]

/-- The schema overrides of a profile. -/
def overrideGrid (p : Profile) : Console.Grid where
  title := "XSD overrides"
  columns := [⟨"Schema", false⟩, ⟨"Element", false⟩, ⟨"minOccurs", false⟩, ⟨"maxOccurs", false⟩]
  rows := p.overrides.flatMap fun (type, os) => os.map fun o =>
    [type, o.element, o.minOccurs.getD "", o.maxOccurs.getD ""]

/-- The further assertions of a profile. -/
def assertionGrid (p : Profile) : Console.Grid where
  title := "Custom assertions"
  columns := [⟨"Rule-set", false⟩, ⟨"Id", false⟩, ⟨"Context", false⟩, ⟨"Test", false⟩]
  rows := p.assertions.flatMap fun (type, as) => as.map fun a =>
    [type, a.id.getD "", a.context.getD "", a.test.getD ""]

/-- Prints which profile is extended, if any is. -/
def showExtension : Option String → Work Unit
  | some parent => print (extension parent)
  | none => pure ⟨⟩

/-- Prints a grid, unless there is nothing to show. -/
def showUnless (nothing : Bool) (g : Console.Grid) : Work Unit :=
  if !nothing then printGrid g else pure ⟨⟩

/-- Shows a profile. -/
def showProfile (p : Profile) : Work Unit := do
  print (heading p)
  showExtension p.extends?
  printGrid (suppressionGrid p)
  showUnless p.overrides.isEmpty (overrideGrid p)
  showUnless p.assertions.isEmpty (assertionGrid p)

/-- Shows a profile, or tells that there is none. -/
def showFound (name : String) : Option Profile → Work Unit
  | none => stop ("Profile '" ++ name ++ "' not found.")
  | some p => showProfile p

theorem run_profile (around : Surroundings) (config : Option String) (name : String) :
    run around (.perform (.profile name) config) =
      profileFound around config name >>= showFound name := by
  show (workspace around config >>= fun w => runProfile w name) = _
  unfold runProfile profileFound
  simp only [bind_assoc, pure_bind]
  refine bind_congr fun w => bind_congr fun _ => bind_congr fun s => ?_
  split
  · next hp =>
    rw [hp]
    rfl
  · next p hp =>
    rw [hp]
    dsimp only [showFound, showProfile, heading]
    refine bind_congr fun _ => ?_
    have hunless : ∀ (nothing : Bool) (g : Console.Grid) (rest : Work Unit),
        (if !nothing then printGrid g >>= fun _ => rest else rest) =
          showUnless nothing g >>= fun _ => rest := by
      intro nothing g rest
      cases nothing with
      | true => exact (pure_bind _ _).symm
      | false => rfl
    have hgrids : (do
          printGrid (suppressionGrid p)
          if !p.overrides.isEmpty then printGrid (overrideGrid p)
          if !p.assertions.isEmpty then printGrid (assertionGrid p) : Work Unit) = (do
          printGrid (suppressionGrid p)
          showUnless p.overrides.isEmpty (overrideGrid p)
          showUnless p.assertions.isEmpty (assertionGrid p)) :=
      bind_congr fun _ => hunless _ _ _
    cases p.extends? with
    | none => exact hgrids.trans (pure_bind _ _).symm
    | some parent => exact bind_congr fun _ => hgrids

/-- Can all texts of a profile be shown? -/
structure ProfileReadable (p : Profile) : Prop where
  heading : IsReadable (heading p)
  extension : ∀ parent ∈ p.extends?, IsReadable (extension parent)
  rules : (suppressionGrid p).AllReadable
  overrides : p.overrides.isEmpty = false → (overrideGrid p).AllReadable
  assertions : p.assertions.isEmpty = false → (assertionGrid p).AllReadable

/-- What showing a profile comes to. -/
def profileOutput (p : Profile) : Except TagFault (List (List Char)) :=
  behind (textOutput (heading p)) (behind ((p.extends?.map fun parent => textOutput (extension parent)).getD (.ok []))
    (behind (suppressionGrid p).lines
      (behind (if p.overrides.isEmpty then .ok [] else (overrideGrid p).lines)
        (if p.assertions.isEmpty then .ok [] else (assertionGrid p).lines))))

theorem prints_showProfile (p : Profile) : Prints (showProfile p) (profileOutput p) := by
  have hextension : Prints (showExtension p.extends?)
      ((p.extends?.map fun parent => textOutput (extension parent)).getD (.ok [])) := by
    cases p.extends? with
    | none => exact .pure
    | some parent => exact .print _
  have hunless : ∀ nothing g, Prints (showUnless nothing g) (if nothing then .ok [] else g.lines) := by
    intro nothing g
    cases nothing with
    | true => exact .pure
    | false => exact .printGrid g
  exact .bind (.print _) (.bind hextension (.bind (.printGrid _) (.bind (hunless _ _) (hunless _ _))))

theorem exists_profileOutput_iff (p : Profile) :
    (∃ lines, profileOutput p = .ok lines) ↔ ProfileReadable p := by
  have hextension : (∃ lines, (p.extends?.map fun parent => textOutput (extension parent)).getD (.ok []) =
      .ok lines) ↔ ∀ parent ∈ p.extends?, IsReadable (extension parent) := by
    cases p.extends? with
    | none => exact iff_of_true ⟨[], rfl⟩ nofun
    | some parent => simpa using exists_textOutput_iff
  have hunless : ∀ (nothing : Bool) (g : Console.Grid),
      (∃ lines, (if nothing then .ok [] else g.lines) = .ok lines) ↔ (nothing = false → g.AllReadable) := by
    intro nothing g
    cases nothing with
    | true => exact iff_of_true ⟨[], rfl⟩ nofun
    | false => simpa using Console.Grid.exists_lines_iff
  unfold profileOutput
  rw [exists_behind_iff, exists_behind_iff, exists_behind_iff, exists_behind_iff, exists_textOutput_iff,
    hextension, Console.Grid.exists_lines_iff, hunless, hunless]
  exact ⟨fun ⟨h₁, h₂, h₃, h₄, h₅⟩ => ⟨h₁, h₂, h₃, h₄, h₅⟩,
    fun h => ⟨h.heading, h.extension, h.rules, h.overrides, h.assertions⟩⟩

/-- The width of the column in which the patterns stand. -/
def patternWidth? (p : Profile) : Option Nat := (suppressionGrid p).widths.toOption.bind fun ws => ws[1]?

/-- No word of a pattern is too wide for the column, where it would be cut short. -/
def PatternsFit (p : Profile) : Prop :=
  ∀ w ∈ patternWidth? p, ∀ r ∈ p.rules, ∀ t ∈ split '\n' r.pattern.toList, ∀ part ∈ cellParts w t,
    width (trimExcess (w - 2) part) ≤ w - 2

instance (p : Profile) : Decidable (PatternsFit p) :=
  inferInstanceAs (Decidable (∀ w ∈ patternWidth? p, ∀ r ∈ p.rules, ∀ t ∈ split '\n' r.pattern.toList,
    ∀ part ∈ cellParts w t, width (trimExcess (w - 2) part) ≤ w - 2))

/-- What the command shows are the patterns of a profile, character for character: the lines of the patterns
are what is laid out in their cells, where they are folded to the width of the column, each of their parts
stands in a line that is printed, up to blanks at its end, and the command does not break off. -/
structure ShowsPatterns (p : Profile) (out : Outcome) : Prop where
  texts : ∀ r ∈ p.rules, linesOf r.pattern = .ok (split '\n' r.pattern.toList)
  lines : ∃ w ∈ patternWidth? p, ∀ r ∈ p.rules, ∀ t ∈ split '\n' r.pattern.toList, ∀ part ∈ cellParts w t,
    ∃ line ∈ out.lines, trimEnd part <:+: line.toList
  unbroken : out.broken = none

theorem outcome_showProfile_iff (p : Profile) (s : Session) :
    let out := outcomeOf (resultOf (showProfile p) s)
    (out.broken = none ↔ ProfileReadable p) ∧ (out.code = 0 ↔ ProfileReadable p) := by
  intro out
  have hprints := prints_showProfile p
  rw [← exists_profileOutput_iff]
  cases houtput : profileOutput p with
  | ok lines =>
      rw [houtput] at hprints
      have hout : out = outcomeOf (.ok ⟨⟩, s.tell lines) := congrArg outcomeOf (hprints s)
      rw [hout]
      exact ⟨iff_of_true rfl ⟨lines, rfl⟩, iff_of_true rfl ⟨lines, rfl⟩⟩
  | error e =>
      rw [houtput] at hprints
      obtain ⟨s', hs⟩ := hprints s
      have hout : out = outcomeOf (.error (.tag e), s') := congrArg outcomeOf hs
      rw [hout]
      simp [outcomeOf]

theorem exists_patternWidth {p : Profile} {ls : List (List Char)} (h : (suppressionGrid p).lines = .ok ls) :
    ∃ w, patternWidth? p = some w := by
  obtain ⟨ws, hws⟩ := Console.Grid.exists_widths h
  have hlength : 1 < ws.length := by
    rw [Console.Grid.length_of_widths hws]
    exact Nat.lt_of_sub_eq_succ rfl
  exact ⟨ws[1], by rw [patternWidth?, hws]; exact List.getElem?_eq_getElem hlength⟩

theorem exists_line_of_pattern {p : Profile} {ls : List (List Char)} {w : Nat} {r : SuppressionRule}
    {t part : List Char} (hfit : PatternsFit p) (hlines : (suppressionGrid p).lines = .ok ls)
    (hw : w ∈ patternWidth? p) (hr : r ∈ p.rules) (hplain : IsPlain r.pattern.toList)
    (ht : t ∈ split '\n' r.pattern.toList) (hpart : part ∈ cellParts w t) :
    ∃ l ∈ ls, trimEnd part <:+: l := by
  have hfits := hfit w hw r hr t ht part hpart
  obtain ⟨ws, hws, hw⟩ := Option.bind_eq_some_iff.mp hw
  obtain ⟨i, hi⟩ := List.mem_iff_getElem?.mp hr
  have hrow : (suppressionGrid p).rows[i]? = some [r.mode.name, r.pattern,
      if r.isGlobal then "*" else ", ".intercalate r.scope, r.description.getD ""] := by
    show (p.rules.map _)[i]? = _
    rw [List.getElem?_map, hi]
    rfl
  have hcolumn : (suppressionGrid p).columns[1]? = some ⟨"Pattern", false⟩ := rfl
  have htab : '\t' ∉ t := fun htab =>
    (hplain.steady _ (Console.mem_of_mem_split ht htab)).2 rfl
  exact Console.Grid.exists_line_of_cell hlines (eq_ok_of_toOption hws) hrow rfl hcolumn hw
    (Console.seen_eq_ok hplain) ht htab hpart hfits

/-- Only plain patterns are shown as they are, and only where every text of the profile can be shown. -/
theorem isPlain_of_showsPatterns {p : Profile} {s : Session}
    (h : ShowsPatterns p (outcomeOf (resultOf (showProfile p) s))) :
    (∀ r ∈ p.rules, IsPlain r.pattern.toList) ∧ ProfileReadable p :=
  ⟨fun r hr => (Console.linesOf_eq_ok_iff r.pattern).mp (h.texts r hr),
    (outcome_showProfile_iff p s).1.mp h.unbroken⟩

/-- The patterns of a profile are shown as they are exactly if each of them is plain, and if every text of the
profile can be shown. -/
theorem showsPatterns_iff {p : Profile} (hfit : PatternsFit p) (s : Session) :
    ShowsPatterns p (outcomeOf (resultOf (showProfile p) s)) ↔
      (∀ r ∈ p.rules, IsPlain r.pattern.toList) ∧ ProfileReadable p := by
  refine ⟨isPlain_of_showsPatterns, ?_⟩
  rintro ⟨hplain, hall⟩
  obtain ⟨lines, houtput⟩ := (exists_profileOutput_iff p).mpr hall
  have hprints := prints_showProfile p
  rw [houtput] at hprints
  have hout : outcomeOf (resultOf (showProfile p) s) = outcomeOf (.ok ⟨⟩, s.tell lines) :=
    congrArg outcomeOf (hprints s)
  obtain ⟨first, -, second, hsecond, rfl⟩ := behind_eq_ok.mp houtput
  obtain ⟨extended, -, third, hthird, rfl⟩ := behind_eq_ok.mp hsecond
  obtain ⟨grid, hgrid, last, -, rfl⟩ := behind_eq_ok.mp hthird
  obtain ⟨w, hw⟩ := exists_patternWidth hgrid
  refine ⟨fun r hr => (Console.linesOf_eq_ok_iff r.pattern).mpr (hplain r hr), ⟨w, hw, ?_⟩,
    (outcome_showProfile_iff p s).1.mpr hall⟩
  intro r hr t ht part hpart
  obtain ⟨l, hl, hwithin⟩ := exists_line_of_pattern hfit hgrid hw hr (hplain r hr) ht hpart
  refine ⟨String.ofList l, ?_, by rwa [String.toList_ofList]⟩
  rw [hout]
  show String.ofList l ∈ (s.tell _).told
  rw [told_tell]
  refine List.mem_append_right _ (List.mem_map_of_mem ?_)
  simp [hl]

/-! ## Whatever is found -/

variable {around : Surroundings} {disk : Disk} {arguments : List String} {config : Option String}
  {s : Session}

/-- A report that was found is printed, and its verdict ends the session. -/
theorem ofArguments_validate {o : ValidationOrder} {r : ValidationReport}
    (hread : Command.ofArguments arguments = .ok (.perform (.validate o) config))
    (hfound : resultOf (validated around config o) (fresh disk) = (.ok r, s)) :
    ofArguments around disk arguments = outcomeOf (resultOf (conclude o.json r) s) := by
  rw [ofArguments_eq hread]
  show outcomeOf (resultOf (runValidate around config o) _) = _
  rw [runValidate_eq, resultOf_bind, hfound]

/-- A profile that was found is shown. -/
theorem ofArguments_profile {name : String} {p : Profile}
    (hread : Command.ofArguments arguments = .ok (.perform (.profile name) config))
    (hfound : resultOf (profileFound around config name) (fresh disk) = (.ok (some p), s)) :
    ofArguments around disk arguments = outcomeOf (resultOf (showProfile p) s) := by
  rw [ofArguments_eq hread, run_profile, resultOf_bind, hfound]
  rfl

/-- Surroundings whose engine answers with a text. -/
def reporting (text : String) : Surroundings where
  folder := []
  engine :=
    { pass := fun _ _ document => .ok document
      compile := fun content => .ok ⟨content⟩
      apply := fun _ _ _ => .ok (bytesOf text)
      compileSchema := fun content => .ok ⟨content⟩
      validate := fun _ _ => [] }
  present := { here := "now", universal := "now" }

/-- A disk with a document, a rule-set, and a profile with a pattern. -/
def diskWith (pattern : String) : Disk where
  nodes :=
    [([".schemax.json"], .file (bytesOf
        ("\x7b\"schemas\": \x7b\x7d, \"rulesets\": \x7b\"UBLTR_MAIN\": " ++
          "\x7b\"path\": \"main.xsl\", \"kind\": \"xsl\"\x7d\x7d\x7d"))),
      (["a.xml"], .file (bytesOf "<a/>")), (["assets"], .folder),
      (["assets", "main.xsl"], .file (bytesOf
        "<xsl:stylesheet version='1.0' xmlns:xsl='http://www.w3.org/1999/XSL/Transform'/>")),
      (["assets", "validation-profiles.yml"], .file (bytesOf
        ("profiles:\n  p:\n    suppressions:\n    - match: text\n      pattern: '" ++ pattern ++ "'\n")))]

/-- What is asked for, some findings being suppressed. -/
def order (suppressions : List String) : ValidationOrder where
  document := "a.xml"
  ruleSet := "UBLTR_MAIN"
  suppressions := suppressions

/-- A report with one finding, which is active or suppressed. -/
def reportOf (active : Bool) (message : String) : ValidationReport where
  ruleSet := .ubltrMain
  findings :=
    if active then { active := [⟨none, none, message⟩] } else { suppressed := [⟨none, none, message⟩] }

/-- A profile with one pattern. -/
def profileOf (pattern : String) : Profile where
  name := "p"
  rules := [{ mode := .textPattern, pattern }]

end Conformity.Session
