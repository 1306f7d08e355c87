import Conformity.Command.Session
import Conformity.Proofs.Console.Lines

/-!
# What a command shows of a report

Work in a session that only prints either prints some lines or breaks off at the first text that cannot be
shown (`Prints`). Texts and grids are such work, and so is what is made of them: what follows is printed
behind what comes first (`Prints.bind`).

A report is printed line by line, and the texts in it, which anyone may have written, are printed as styled
text. Each of its lines is shown as it is exactly if it is plain, so that no bracket in it is taken for a tag
(`showsReport_iff`). Where a tag ends a style that is not open, the command even breaks off, and its exit
code does not tell whether the document is valid (`outcome_conclude_iff`).
-/

namespace Conformity.Session

open Console (IsPlain IsReadable IsStyle TagFault Wraps linesOf seen styledText wrapped)
open Text (split)

/-! ## Lines that were printed -/

/-- The lines that were printed, the first one first. -/
def told (s : Session) : List String := s.printed.reverse

/-- A session that has printed further lines. -/
def tell (s : Session) (lines : List (List Char)) : Session :=
  { s with printed := (lines.map String.ofList).reverse ++ s.printed }

@[simp] theorem told_tell (s : Session) (lines : List (List Char)) :
    (s.tell lines).told = s.told ++ lines.map String.ofList := by
  simp [told, tell]

@[simp] theorem tell_tell (s : Session) (xs ys : List (List Char)) :
    (s.tell xs).tell ys = s.tell (xs ++ ys) := by
  simp [tell]

/-! ## Work that prints -/

/-- Lines with others behind them. -/
def behind (a b : Except TagFault (List (List Char))) : Except TagFault (List (List Char)) := do
  let first ← a
  let second ← b
  return first ++ second

theorem behind_eq_ok {a b : Except TagFault (List (List Char))} {lines : List (List Char)} :
    behind a b = .ok lines ↔ ∃ first, a = .ok first ∧ ∃ second, b = .ok second ∧ first ++ second = lines := by
  unfold behind
  simp only [bind_eq_ok]
  refine exists_congr fun first => and_congr_right fun _ => exists_congr fun second =>
    and_congr_right fun _ => ⟨Except.ok.inj, congrArg Except.ok⟩

theorem exists_behind_iff {a b : Except TagFault (List (List Char))} :
    (∃ lines, behind a b = .ok lines) ↔ (∃ lines, a = .ok lines) ∧ ∃ lines, b = .ok lines := by
  simp only [behind_eq_ok]
  exact ⟨fun ⟨_, first, ha, second, hb, _⟩ => ⟨⟨first, ha⟩, second, hb⟩,
    fun ⟨⟨first, ha⟩, second, hb⟩ => ⟨_, first, ha, second, hb, rfl⟩⟩

/-- What a text comes to that is printed. -/
def textOutput (text : String) : Except TagFault (List (List Char)) :=
  (linesOf text).map fun lines => lines.flatMap wrapped

theorem exists_textOutput_iff {text : String} :
    (∃ lines, textOutput text = .ok lines) ↔ IsReadable text := by
  rw [Console.isReadable_iff]
  unfold textOutput
  cases linesOf text with
  | error e => simp [Except.map]
  | ok lines => exact iff_of_true ⟨_, rfl⟩ ⟨lines, rfl⟩

/-- Work prints lines, whatever the session, or breaks off since something cannot be shown. -/
def Prints (x : Work Unit) : Except TagFault (List (List Char)) → Prop
  | .ok lines => ∀ s, resultOf x s = (.ok ⟨⟩, s.tell lines)
  | .error e => ∀ s, ∃ s', resultOf x s = (.error (.tag e), s')

namespace Prints

variable {x y : Work Unit} {a b : Except TagFault (List (List Char))}

theorem pure : Prints (Pure.pure ⟨⟩) (.ok []) := fun _ => rfl

theorem bind (hx : Prints x a) (hy : Prints y b) :
    Prints (x >>= fun _ => y) (behind a b) := by
  cases a with
  | error e =>
      intro s
      obtain ⟨s', hs⟩ := hx s
      exact ⟨s', by rw [resultOf_bind, hs]⟩
  | ok first =>
      cases b with
      | error e =>
          intro s
          obtain ⟨s', hs⟩ := hy (s.tell first)
          exact ⟨s', by rw [resultOf_bind, hx s]; exact hs⟩
      | ok second =>
          intro s
          rw [resultOf_bind, hx s]
          dsimp only
          rw [hy, tell_tell]

theorem print (text : String) : Prints (Session.print text) (textOutput text) := by
  have hrun : ∀ s, resultOf (Session.print text) s =
      resultOf (Session.shown (seen text) >>= fun cs =>
        printLines ((Console.paragraph cs).map String.ofList)) s := fun _ => rfl
  unfold textOutput linesOf
  cases hseen : seen text with
  | error e => exact fun s => ⟨s, by rw [hrun, hseen]; rfl⟩
  | ok cs =>
      intro s
      rw [hrun, hseen]
      dsimp only [Except.map]
      rw [← Console.paragraph_eq]
      rfl

theorem printGrid (g : Console.Grid) : Prints (Session.printGrid g) g.lines := by
  have hrun : ∀ s, resultOf (Session.printGrid g) s =
      resultOf (Session.shown g.lines >>= fun lines => printLines (lines.map String.ofList)) s :=
    fun _ => rfl
  cases hlines : g.lines with
  | error e => exact fun s => ⟨s, by rw [hrun, hlines]; rfl⟩
  | ok lines =>
      intro s
      rw [hrun, hlines]
      rfl

theorem printJson (d : Data) :
    Prints (Session.printJson d) (.ok (Text.split '\n' (Json.pretty d).toList)) := by
  intro s
  unfold Session.printJson printLines
  rw [resultOf_modify]
  rfl

/-- Several texts are printed one after the other. -/
theorem forM {α : Type} (text : α → String) (xs : List α) :
    Prints (xs.forM fun x => Session.print (text x))
      ((xs.mapM fun x => linesOf (text x)).map fun all => all.flatten.flatMap wrapped) := by
  induction xs with
  | nil => exact .pure
  | cons x xs ih =>
      have hboth := (Prints.print (text x)).bind ih
      have hout : ((x :: xs).mapM fun x => linesOf (text x)).map
            (fun all => all.flatten.flatMap wrapped) =
          behind (textOutput (text x))
            ((xs.mapM fun x => linesOf (text x)).map fun all => all.flatten.flatMap wrapped) := by
        rw [List.mapM_cons, textOutput]
        cases linesOf (text x) with
        | error e => rfl
        | ok lines =>
            cases xs.mapM fun x => linesOf (text x) with
            | error e => rfl
            | ok all => exact congrArg Except.ok List.flatMap_append
      rw [hout, List.forM_eq_forM, List.forM_cons]
      exact hboth

end Prints

/-! ## Outcomes -/

/-- What came of a session that ended in some way. -/
def outcomeOf (r : Except SessionEnd Unit × Session) : Outcome :=
  match r with
  | (.ok _, s) => { code := 0, lines := s.told, disk := s.state.disk }
  | (.error (.exit code), s) => { code, lines := s.told, disk := s.state.disk }
  | (.error e, s) => { code := 1, lines := s.told, broken := some e, disk := s.state.disk }

/-- A session in which nothing has been done. -/
def fresh (disk : Disk) : Session := ⟨Workspace.start disk, []⟩

theorem ofArguments_eq {around : Surroundings} {arguments : List String} {command : Command}
    (h : Command.ofArguments arguments = .ok command) (disk : Disk) :
    ofArguments around disk arguments = outcomeOf (resultOf (run around command) (fresh disk)) := by
  unfold ofArguments outcomeOf fresh resultOf
  rw [h]
  dsimp only
  rcases (run around command).run.run ⟨Workspace.start disk, []⟩ with ⟨r, s⟩
  rcases r with (_ | _ | _) | _ <;> rfl

/-! ## Lines of a report -/

/-- A line of a report: a text in a style, and what follows it. -/
structure ReportLine where
  style : String
  text : String
  rest : String

namespace ReportLine

variable {l : ReportLine}

/-- A line as it is printed. -/
def markup (l : ReportLine) : String := styled l.style l.text ++ l.rest

/-- A line as it is to be shown. -/
def wording (l : ReportLine) : List Char := l.text.toList ++ l.rest.toList

/-- Nothing in a line has a meaning for the terminal but its style, and there is no backslash in front of the
end of the style. -/
structure IsPlain (l : ReportLine) : Prop where
  text : Console.IsPlain l.text.toList
  noSlash : ¬ ['\\'] <:+ l.text.toList
  rest : Console.IsPlain l.rest.toList

theorem isPlain_iff : l.IsPlain ↔
    (Console.IsPlain l.text.toList ∧ ¬ ['\\'] <:+ l.text.toList) ∧ Console.IsPlain l.rest.toList :=
  ⟨fun h => ⟨⟨h.text, h.noSlash⟩, h.rest⟩, fun ⟨⟨htext, hslash⟩, hrest⟩ => ⟨htext, hslash, hrest⟩⟩

instance (l : ReportLine) : Decidable l.IsPlain := decidable_of_iff _ isPlain_iff.symm

theorem toList_markup (l : ReportLine) :
    l.markup.toList = styledText l.style.toList l.text.toList l.rest.toList := by
  simp [markup, styled, styledText]

/-- Exactly a plain line is shown as it is. -/
theorem linesOf_markup_iff (hstyle : IsStyle l.style.toList) :
    linesOf l.markup = .ok (split '\n' l.wording) ↔ l.IsPlain := by
  rw [wording, Console.linesOf_styled_eq_ok_iff hstyle l.toList_markup, isPlain_iff]

end ReportLine

open ReportLine (markup wording)

/-- The line about an error against the schema. -/
def errorLine (e : String) : ReportLine := ⟨"red", "SCHEMA", " " ++ e⟩

/-- The line about an active finding. -/
def activeLine (f : Finding) : ReportLine := ⟨"red", ruleOf f, " " ++ f.message⟩

/-- The line about a suppressed finding. -/
def suppressedLine (f : Finding) : ReportLine :=
  ⟨"dim", "suppressed " ++ ruleOf f ++ ": " ++ f.message, ""⟩

/-- The line at the end of a report. -/
def summaryLine (r : ValidationReport) : ReportLine where
  style := if r.isValid then "green" else "red"
  text := if r.isValid then "OK" else "INVALID"
  rest := " " ++ toString r.schemaErrors.length ++ " schema error(s), " ++
    toString r.findings.active.length ++ " finding(s), " ++
    toString (r.findings.suppressedCount + r.suppressedSchemaErrors) ++ " suppressed"

/-- The lines about errors and findings. -/
def findingLines (r : ValidationReport) : List ReportLine :=
  r.schemaErrors.map errorLine ++ r.findings.active.map activeLine ++
    r.findings.suppressed.map suppressedLine

/-- All lines of a report. -/
def reportLines (r : ValidationReport) : List ReportLine := findingLines r ++ [summaryLine r]

theorem isStyle_of_mem {r : ValidationReport} {l : ReportLine} (h : l ∈ reportLines r) :
    IsStyle l.style.toList := by
  have hred : IsStyle "red".toList := by decide +kernel
  rcases List.mem_append.mp h with hfinding | hsummary
  · rcases List.mem_append.mp hfinding with hloud | hsuppressed
    · rcases List.mem_append.mp hloud with herror | hactive
      · obtain ⟨e, -, rfl⟩ := List.mem_map.mp herror
        exact hred
      · obtain ⟨f, -, rfl⟩ := List.mem_map.mp hactive
        exact hred
    · obtain ⟨f, -, rfl⟩ := List.mem_map.mp hsuppressed
      exact (by decide +kernel : IsStyle "dim".toList)
  · rw [List.mem_singleton.mp hsummary, summaryLine]
    dsimp only
    split
    · exact (by decide +kernel : IsStyle "green".toList)
    · exact hred

theorem markup_errorLine (e : String) :
    (errorLine e).markup = styled "red" "SCHEMA" ++ " " ++ e := String.append_assoc.symm

theorem markup_activeLine (f : Finding) :
    (activeLine f).markup = styled "red" (ruleOf f) ++ " " ++ f.message := String.append_assoc.symm

theorem markup_suppressedLine (f : Finding) :
    (suppressedLine f).markup = styled "dim" ("suppressed " ++ ruleOf f ++ ": " ++ f.message) :=
  String.append_empty

/-- A report is printed line by line. -/
theorem printReport_eq (r : ValidationReport) :
    printReport r = (reportLines r).forM fun l => print l.markup := by
  have hsummary : (summaryLine r).markup =
      (if r.isValid then styled "green" "OK" else styled "red" "INVALID") ++ " " ++
        (toString r.schemaErrors.length ++ " schema error(s), " ++
          toString r.findings.active.length ++ " finding(s), " ++
          toString (r.findings.suppressedCount + r.suppressedSchemaErrors) ++ " suppressed") := by
    unfold summaryLine markup
    split <;> simp [String.append_assoc]
  unfold printReport reportLines findingLines
  simp only [List.forM_eq_forM, List.forM_append, List.forM_map, List.forM_cons, List.forM_nil,
    bind_assoc, bind_pure_unit, markup_errorLine, markup_activeLine, markup_suppressedLine, hsummary]

theorem isPlain_of_clear {cs : List Char} (h : ∀ c ∈ cs, c ≠ '[' ∧ Console.IsSteady c) : IsPlain cs :=
  ⟨Console.isUnmarked_of_notMem fun hmem => (h _ hmem).1 rfl, fun c hc => (h c hc).2⟩

theorem clear_of_all (cs : List Char) (h : cs.all fun c => decide (c ≠ '[' ∧ Console.IsSteady c)) :
    ∀ c ∈ cs, c ≠ '[' ∧ Console.IsSteady c :=
  fun c hc => of_decide_eq_true (List.all_eq_true.mp h c hc)

theorem clear_of_isDigit {c : Char} (h : c.isDigit) : c ≠ '[' ∧ Console.IsSteady c := by
  have hcode : 48 ≤ c.toNat := by
    simp only [Char.isDigit, Bool.and_eq_true, decide_eq_true_eq] at h
    exact h.1
  have hne : ∀ d : Char, d.toNat < 48 → c ≠ d := by
    rintro d hd rfl
    omega
  refine ⟨?_, ?_, hne '\t' (by decide)⟩
  · rintro rfl
    exact absurd h (by decide)
  · unfold Console.isControl
    simp
    omega

theorem clear_of_mem_toString {c : Char} {n : Nat} (h : c ∈ (toString n).toList) :
    c ≠ '[' ∧ Console.IsSteady c := by
  have hdigits : c ∈ Nat.toDigits 10 n := by simpa using h
  exact clear_of_isDigit (Nat.isDigit_of_mem_toDigits (by decide) (by decide) hdigits)

/-- The summary is shown as it is, for it only holds numbers. -/
theorem isPlain_summaryLine (r : ValidationReport) : (summaryLine r).IsPlain := by
  have hspace := clear_of_all " ".toList (by decide)
  have herrors := clear_of_all " schema error(s), ".toList (by decide)
  have hfindings := clear_of_all " finding(s), ".toList (by decide)
  have hsuppressed := clear_of_all " suppressed".toList (by decide)
  constructor
  · unfold summaryLine
    dsimp only
    split <;> decide
  · unfold summaryLine
    dsimp only
    split <;> decide
  · refine isPlain_of_clear ?_
    simp only [summaryLine, String.toList_append, List.forall_mem_append]
    exact ⟨⟨⟨⟨⟨⟨hspace, fun _ h => clear_of_mem_toString h⟩, herrors⟩, fun _ h => clear_of_mem_toString h⟩,
      hfindings⟩, fun _ h => clear_of_mem_toString h⟩, hsuppressed⟩

/-! ## Validating -/

/-- The report of a document, before it is printed. -/
def validated (around : Surroundings) (config : Option String) (o : ValidationOrder) :
    Work ValidationReport := do
  expectFile around o.document "Document not found"
  let w ← workspace around config
  (← reloadAll w).forM fun r =>
    if r.isOk then return ()
    else
      print (styled "yellow" "WARN" ++ " " ++ r.component ++ ": " ++ r.status.name ++ " " ++
        (Data.texts r.errors).shown)
  expectingOwn do
    let document ← readFile around o.document
    let ruleSet ← ruleSetType o.ruleSet
    let schema ← (o.schema.filter fun s => !s.isEmpty).mapM
      (member "SchemaType" SchemaType.ofName?)
    inWorkspace (w.validate
      { document, ruleSet, schema, profile := o.profile, suppressions := o.suppressions.map some
        subtype := o.subtype
        place := some (Path.text (Path.resolved around.folder o.document)) })

/-- Ends a session by the verdict of a report. -/
def verdict (r : ValidationReport) : Work Unit := if !r.isValid then throw (.exit 1) else pure ⟨⟩

/-- Prints a report and ends the session. -/
def conclude (json : Bool) (r : ValidationReport) : Work Unit := do
  if json then printJson r.toData else printReport r
  verdict r

theorem runValidate_eq (around : Surroundings) (config : Option String) (o : ValidationOrder) :
    runValidate around config o = validated around config o >>= conclude o.json := by
  unfold runValidate validated conclude verdict
  simp only [bind_assoc]

variable {r : ValidationReport} {s : Session}

/-- What printing a report comes to. -/
def reportOutput (r : ValidationReport) : Except TagFault (List (List Char)) :=
  ((reportLines r).mapM fun l => linesOf l.markup).map fun all => all.flatten.flatMap wrapped

theorem prints_printReport (r : ValidationReport) : Prints (printReport r) (reportOutput r) := by
  rw [printReport_eq]
  exact .forM markup _

theorem isReadable_summaryLine (r : ValidationReport) : IsReadable (summaryLine r).markup :=
  Console.isReadable_of_linesOf ((ReportLine.linesOf_markup_iff
    (isStyle_of_mem (List.mem_append_right _ (List.mem_singleton_self _)))).mpr (isPlain_summaryLine r))

theorem exists_reportOutput_iff :
    (∃ lines, reportOutput r = .ok lines) ↔ ∀ l ∈ findingLines r, IsReadable l.markup := by
  have hall : (∃ all, ((reportLines r).mapM fun l => linesOf l.markup) = .ok all) ↔
      ∀ l ∈ reportLines r, IsReadable l.markup := by
    rw [exists_mapM_eq_ok_iff]
    simp only [Console.isReadable_iff]
  unfold reportOutput
  simp only [map_eq_ok]
  rw [exists_comm]
  simp only [exists_and_left, exists_eq', and_true]
  rw [hall, reportLines, List.forall_mem_append]
  exact and_iff_left (List.forall_mem_singleton.mpr (isReadable_summaryLine r))

/-- A report that is printed ends with its verdict. -/
theorem outcomeOf_verdict {x : Work Unit} {lines : List (List Char)} (hx : Prints x (.ok lines))
    (r : ValidationReport) (s : Session) :
    outcomeOf (resultOf (x >>= fun _ => verdict r) s) =
      { code := if r.isValid then 0 else 1, lines := s.told ++ lines.map String.ofList
        disk := s.state.disk } := by
  rw [resultOf_bind, hx, ← told_tell]
  dsimp only
  unfold verdict
  cases r.isValid <;> rfl

/-- A report that cannot be shown ends otherwise. -/
theorem outcomeOf_verdict_of_error {x : Work Unit} {e : TagFault} (hx : Prints x (.error e))
    (r : ValidationReport) (s : Session) :
    (outcomeOf (resultOf (x >>= fun _ => verdict r) s)).code = 1 ∧
      (outcomeOf (resultOf (x >>= fun _ => verdict r) s)).broken = some (.tag e) := by
  obtain ⟨s', hs⟩ := hx s
  rw [resultOf_bind, hs]
  exact ⟨rfl, rfl⟩

/-- What the command shows is its report, character for character: what is printed are the lines of the
report, folded to the width of the terminal, and the exit code tells whether the document is valid. -/
structure ShowsReport (r : ValidationReport) (before : List String) (out : Outcome) : Prop where
  texts : ∀ l ∈ reportLines r, linesOf l.markup = .ok (split '\n' l.wording)
  lines : ∃ parts, List.Forall₂ Wraps ((reportLines r).flatMap fun l => split '\n' l.wording) parts ∧
    out.lines = before ++ parts.flatten.map String.ofList
  unbroken : out.broken = none
  code : out.code = 0 ↔ r.isValid

theorem reportOutput_of_texts
    (h : ∀ l ∈ reportLines r, linesOf l.markup = .ok (split '\n' l.wording)) :
    reportOutput r = .ok (((reportLines r).flatMap fun l => split '\n' l.wording).flatMap wrapped) := by
  unfold reportOutput
  rw [mapM_eq_ok_map h]
  rfl

theorem texts_iff : (∀ l ∈ reportLines r, linesOf l.markup = .ok (split '\n' l.wording)) ↔
    ∀ l ∈ findingLines r, l.IsPlain := by
  have hlines : (∀ l ∈ reportLines r, linesOf l.markup = .ok (split '\n' l.wording)) ↔
      ∀ l ∈ reportLines r, l.IsPlain :=
    forall₂_congr fun l hl => ReportLine.linesOf_markup_iff (isStyle_of_mem hl)
  rw [hlines, reportLines, List.forall_mem_append]
  exact and_iff_left (List.forall_mem_singleton.mpr (isPlain_summaryLine r))

theorem forall₂_wraps (lines : List (List Char)) : List.Forall₂ Wraps lines (lines.map wrapped) :=
  List.forall₂_map_right_iff.mpr (List.forall₂_same.mpr fun line _ => Console.wraps_wrapped line)

theorem code_eq_zero_iff (r : ValidationReport) : (if r.isValid then 0 else 1) = 0 ↔ r.isValid := by
  cases r.isValid <;> decide

/-- A report is shown as it is exactly if each of its lines is plain. -/
theorem showsReport_iff (r : ValidationReport) (s : Session) :
    ShowsReport r s.told (outcomeOf (resultOf (conclude false r) s)) ↔
      ∀ l ∈ findingLines r, l.IsPlain := by
  constructor
  · intro h
    exact texts_iff.mp h.texts
  · intro h
    have htexts := texts_iff.mpr h
    have hprints := prints_printReport r
    rw [reportOutput_of_texts htexts] at hprints
    have hout : outcomeOf (resultOf (conclude false r) s) = _ := outcomeOf_verdict hprints r s
    rw [hout]
    refine ⟨htexts, ⟨_, forall₂_wraps _, ?_⟩, rfl, code_eq_zero_iff r⟩
    rw [List.flatMap_def]

/-- The command does not break off exactly if all of its texts can be shown, and only then its exit code
tells whether the document is valid. -/
theorem outcome_conclude_iff (r : ValidationReport) (s : Session) :
    let out := outcomeOf (resultOf (conclude false r) s)
    (out.broken = none ↔ ∀ l ∈ findingLines r, IsReadable l.markup) ∧
      (out.code = 0 ↔ r.isValid ∧ ∀ l ∈ findingLines r, IsReadable l.markup) := by
  intro out
  have hprints := prints_printReport r
  rw [← exists_reportOutput_iff]
  cases houtput : reportOutput r with
  | ok lines =>
      rw [houtput] at hprints
      have hout : out = _ := outcomeOf_verdict hprints r s
      rw [hout]
      exact ⟨iff_of_true rfl ⟨lines, rfl⟩, (code_eq_zero_iff r).trans (iff_self_and.mpr fun _ => ⟨lines, rfl⟩)⟩
  | error e =>
      rw [houtput] at hprints
      obtain ⟨hcode, hbroken⟩ := outcomeOf_verdict_of_error hprints r s
      have hcode : out.code = 1 := hcode
      have hbroken : out.broken = some (.tag e) := hbroken
      rw [hcode, hbroken]
      simp

theorem outcome_conclude_json (r : ValidationReport) (s : Session) :
    let out := outcomeOf (resultOf (conclude true r) s)
    out.broken = none ∧ (out.code = 0 ↔ r.isValid) := by
  intro out
  have hout : out = _ := outcomeOf_verdict (Prints.printJson r.toData) r s
  rw [hout]
  exact ⟨rfl, code_eq_zero_iff r⟩

end Conformity.Session
