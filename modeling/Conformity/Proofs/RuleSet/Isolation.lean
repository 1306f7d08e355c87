import Conformity.Proofs.RuleSet.Alone
import Conformity.Proofs.RuleSet.Built
import Conformity.Proofs.Workspace.Audits

/-!
# Reloading rule-sets

A reload publishes what the rule-sets that compile come to, each by its own source and the global
assertions for its type, and tells once why any other does not compile. So what is wrong with one
rule-set does not bear on another, unless it breaks the reload (`RuleSets.reload_isolates`). An
assertion with a control character does (`RuleSets.reload_broken_by_control`).
-/

namespace Conformity.RuleSets

variable {s s' : RuleSets} {t : RuleSetType} {disk disk' : Disk} {st st' : RuleSetState}
  {e : RuleSetType × Config.RuleSet} {es : List (RuleSetType × Config.RuleSet)}

/-! ## What is published and told -/

/-- The artifact of a rule-set that compiles, under its type. -/
def artifact? (s : RuleSets) (disk : Disk) (e : RuleSetType × Config.RuleSet) :
    Option (RuleSetType × Artifact) :=
  (s.built disk e).toOption.map fun a => (e.1, a)

/-- Why a rule-set does not compile. -/
def complaint? (s : RuleSets) (disk : Disk) (e : RuleSetType × Config.RuleSet) : Option String :=
  match s.built disk e with
  | .ok _ => none
  | .error f => some (e.1.name ++ ": " ++ f.message)

/-- Clears the folders for audits. -/
def clearAudits (s : RuleSets) : Disk.Action Unit := do
  s.storage.clearGenerated generatedFolder
  s.storage.clearGenerated customFolder

/-- Rule-sets can be reloaded on a disk: each type has one source, which has a place of its own, and
the folders for audits can be cleared. -/
structure IsReady (s : RuleSets) (disk : Disk) : Prop where
  distinct : (s.configured.map Prod.fst).Nodup
  named : ∀ e ∈ s.configured, s.HasNames e.2
  apart : ∀ e ∈ s.configured, s.AreApart (s.sourceAt e.2)
  dated : Markup.isWritable s.present.here = true
  tree : disk.IsTree
  clears : (resultOf s.clearAudits disk).1 = .ok ⟨⟩

theorem canAudit_of_clearAudits (h : (resultOf s.clearAudits disk).1 = .ok ⟨⟩) : s.CanAudit := by
  obtain ⟨_, disk₁, hgenerated, hcustom⟩ := resultOf_bind_eq_ok (resultOf_eq h)
  intro folder hfolder
  simp only [List.mem_cons, List.not_mem_nil, or_false] at hfolder
  rcases hfolder with rfl | rfl
  · exact Storage.exists_place_of_clearGenerated (congrArg Prod.fst hgenerated)
  · exact Storage.exists_place_of_clearGenerated (congrArg Prod.fst hcustom)

theorem lookup_of_mem {κ α : Type} [BEq κ] [LawfulBEq κ] {xs : List (κ × α)}
    (h : (xs.map Prod.fst).Nodup) {x : κ × α} (hx : x ∈ xs) : xs.lookup x.1 = some x.2 := by
  obtain ⟨before, after, rfl⟩ := List.append_of_mem hx
  refine List.lookup_eq_some_iff.mpr ⟨before, after, rfl, fun y hy => bne_iff_ne.mpr ?_⟩
  rw [List.map_append, List.nodup_append] at h
  exact (h.2.2 y.1 (List.mem_map_of_mem hy) x.1 (by simp)).symm

/-! ## One rule-set after another -/

/-- The sources of some rule-sets are on one disk as on another. -/
structure SameSources (s : RuleSets) (disk disk' : Disk) (es : List (RuleSetType × Config.RuleSet)) :
    Prop where
  document : ∀ e ∈ es, (s.sourceAt e.2).document disk' = (s.sourceAt e.2).document disk
  tree : disk'.IsTree

theorem SameSources.refl (tree : disk.IsTree) (es : List (RuleSetType × Config.RuleSet)) :
    s.SameSources disk disk es :=
  ⟨fun _ _ => rfl, tree⟩

theorem SameSources.unchanged {disk'' : Disk} (same : s.SameSources disk disk' (e :: es))
    (h : ∀ e' ∈ e :: es, (s.sourceAt e'.2).Unchanged disk' disk'') :
    s.SameSources disk disk'' (e :: es) :=
  ⟨fun e' he' => (h e' he').document.trans (same.document e' he'),
    (h e List.mem_cons_self).tree same.tree⟩

theorem SameSources.tail (same : s.SameSources disk disk' (e :: es)) : s.SameSources disk disk' es :=
  ⟨fun e' he' => same.document e' (List.mem_cons_of_mem e he'), same.tree⟩

theorem built_congr (h : (s.sourceAt e.2).document disk' = (s.sourceAt e.2).document disk) :
    s.built disk' e = s.built disk e := by
  unfold built source?
  rw [h]

/-- What is left of a result when a failure of the library's own is caught. -/
def caught {α : Type} : Except Failure α → Except Failure (Except Failure α)
  | .ok a => .ok (.ok a)
  | .error f => if f.isOwn then .ok (.error f) else .error f

theorem resultOf_caught {α : Type} (x : Work α) (st : RuleSetState) :
    resultOf (tryCatch (x.map Except.ok) fun f => if f.isOwn then pure (.error f) else throw f) st =
      (caught (resultOf x st).1, (resultOf x st).2) := by
  rw [resultOf_tryCatch, resultOf_map]
  rcases resultOf x st with ⟨r, st₁⟩
  cases r with
  | ok a => rfl
  | error f =>
      dsimp only [Except.map, caught]
      split <;> rfl

/-- The first of several rule-sets compiles, or it is told why not, or it breaks the reload. -/
theorem resultOf_compileEach_cons (ready : s.IsReady disk)
    (hes : ∀ e' ∈ e :: es, e' ∈ s.configured) (same : s.SameSources disk st.disk (e :: es)) :
    ∃ st₁, s.SameSources disk st₁.disk es ∧ (resultOf (s.compileEach (e :: es)) st).1 =
      match s.built disk e with
      | .ok a => (resultOf (s.compileEach es) st₁).1.map fun p => ((e.1, a) :: p.1, p.2)
      | .error f =>
        if f.isOwn then (resultOf (s.compileEach es) st₁).1.map fun p =>
          (p.1, (e.1.name ++ ": " ++ f.message) :: p.2)
        else .error f := by
  obtain ⟨t, c⟩ := e
  have hmem := hes (t, c) List.mem_cons_self
  have audits := canAudit_of_clearAudits ready.clears
  have hcompile := resultOf_compile (lookup_of_mem ready.distinct hmem) (ready.named _ hmem) audits st
  rw [built_congr (same.document _ List.mem_cons_self)] at hcompile
  have hmap : ∀ {β : Type} (g : List (RuleSetType × Artifact) × List String → β) (st₁ : RuleSetState),
      (resultOf (s.compileEach es >>= fun p => pure (g p)) st₁).1 =
        (resultOf (s.compileEach es) st₁).1.map g :=
    fun g st₁ => congrArg Prod.fst (resultOf_map _ g st₁)
  have hfirst : s.SameSources disk (resultOf (s.compile t) st).2.disk ((t, c) :: es) :=
    same.unchanged fun e' he' => spares_compile (ready.apart e' (hes e' he')) st same.tree
  rw [compileEach, resultOf_bind, resultOf_caught, hcompile]
  generalize (resultOf (s.compile t) st).2 = st₁ at hfirst
  cases s.built disk (t, c) with
  | error f =>
      refine ⟨st₁, hfirst.tail, ?_⟩
      dsimp only [caught]
      by_cases hown : f.isOwn = true
      · rw [if_pos hown, if_pos hown]
        exact hmap _ st₁
      · rw [if_neg hown, if_neg hown]
  | ok a =>
      dsimp only [caught]
      split
      · have haudited : s.SameSources disk (resultOf (s.writeAudit generatedFolder
            (t.name ++ ".xsl") a.generated) st₁).2.disk ((t, c) :: es) :=
          hfirst.unchanged fun e' he' => by
            have hapart := ready.apart e' (hes e' he')
            exact spares_writeAudit hapart hapart.generated _ _ st₁ hfirst.tree
        refine ⟨_, haudited.tail, ?_⟩
        rw [resultOf_bind, resultOf_eq (resultOf_writeGeneratedAudit audits t a.generated st₁)]
        exact hmap _ _
      · exact ⟨st₁, hfirst.tail, hmap _ st₁⟩

/-- Without a rule-set that breaks the reload, those that compile are found, and all others told. -/
theorem resultOf_compileEach (ready : s.IsReady disk) (hes : ∀ e ∈ es, e ∈ s.configured)
    (same : s.SameSources disk st.disk es) (h : ∀ e ∈ es, ¬ s.Breaks disk e) :
    (resultOf (s.compileEach es) st).1 =
      .ok (es.filterMap (s.artifact? disk), es.filterMap (s.complaint? disk)) := by
  induction es generalizing st with
  | nil => rfl
  | cons e es ih =>
      obtain ⟨st₁, hsame, hresult⟩ := resultOf_compileEach_cons ready hes same
      obtain ⟨hsound, hrest⟩ := List.forall_mem_cons.mp h
      rw [ih (fun e' he' => hes e' (List.mem_cons_of_mem e he')) hsame hrest] at hresult
      rw [hresult, List.filterMap_cons, List.filterMap_cons]
      unfold artifact? complaint?
      cases hbuilt : s.built disk e with
      | ok a => rfl
      | error f =>
          dsimp only
          rw [if_pos (isOwn_of_built_eq_error ready.dated hbuilt hsound)]
          rfl

/-- A rule-set that breaks the reload ends it, whatever the others come to. -/
theorem resultOf_compileEach_of_breaks (ready : s.IsReady disk) (hes : ∀ e ∈ es, e ∈ s.configured)
    (same : s.SameSources disk st.disk es) (h : ∃ e ∈ es, s.Breaks disk e) :
    (resultOf (s.compileEach es) st).1 = .error (.refused .unwritable) := by
  induction es generalizing st with
  | nil => simp at h
  | cons e es ih =>
      obtain ⟨st₁, hsame, hresult⟩ := resultOf_compileEach_cons ready hes same
      have hnext := ih (fun e' he' => hes e' (List.mem_cons_of_mem e he')) hsame
      by_cases hbreaks : s.Breaks disk e
      · rw [hresult, hbreaks.built_eq ready.dated]
        rfl
      · have hlater : ∃ e' ∈ es, s.Breaks disk e' := by simpa [hbreaks] using h
        rw [hnext hlater] at hresult
        rw [hresult]
        cases hbuilt : s.built disk e with
        | ok a => rfl
        | error f =>
            dsimp only
            rw [if_pos (isOwn_of_built_eq_error ready.dated hbuilt hbreaks)]
            rfl

/-! ## All rule-sets -/

/-- Where the rule-sets lie that are served. -/
def served : Slot RuleSetState (List (RuleSetType × Artifact)) :=
  ⟨RuleSetState.loaded, fun loaded st => { st with loaded }⟩

theorem isAside_served : IsAside served := ⟨fun _ _ => rfl, fun _ _ => rfl⟩

theorem isTree_clearGenerated (storage : Storage) (folder : String) (tree : disk.IsTree) :
    (resultOf (storage.clearGenerated folder) disk).2.IsTree := by
  unfold Storage.clearGenerated Storage.generatedPlace Storage.placeOf
  split
  · next audits _ =>
    show (resultOf (Disk.look audits >>= _) disk).2.IsTree
    rw [resultOf_bind]
    have hlook := ProfileStore.keeps_look audits disk
    rcases heq : resultOf (Disk.look audits) disk with ⟨r, disk₁⟩
    rw [heq] at hlook
    obtain rfl : disk₁ = disk := hlook
    cases r with
    | error e => exact tree
    | ok node =>
        rcases node with _ | _ | _
        · exact tree
        · exact tree
        · exact tree.remove
  · exact tree

/-- Clearing the folders for audits leaves the sources where they are. -/
theorem sameSources_clearAudits (ready : s.IsReady disk) :
    s.SameSources disk (resultOf s.clearAudits disk).2 s.configured := by
  obtain ⟨_, disk₁, hgenerated, hcustom⟩ := resultOf_bind_eq_ok (resultOf_eq ready.clears)
  have htree := isTree_clearGenerated s.storage generatedFolder ready.tree
  rw [hgenerated] at htree
  have htree' := isTree_clearGenerated s.storage customFolder htree
  rw [hcustom] at htree'
  refine ⟨fun e he => ?_, htree'⟩
  have hapart := ready.apart e he
  have hfirst := ProfileStore.spares_clearGenerated hapart.generated disk ready.tree
  have hsecond := ProfileStore.spares_clearGenerated hapart.custom disk₁ htree
  rw [hapart.storage] at hfirst hsecond
  rw [hgenerated] at hfirst
  rw [hcustom] at hsecond
  exact (hfirst.trans hsecond).document

/-- The folders for audits are cleared, and then the rule-sets are compiled and published. -/
theorem resultOf_reload (ready : s.IsReady st.disk) :
    ∃ st₁, s.SameSources st.disk st₁.disk s.configured ∧ st₁.loaded = st.loaded ∧
      resultOf s.reload st = match resultOf (s.compileEach s.configured) st₁ with
        | (.ok (found, told), st₂) =>
          (.ok (.ofCount component found.length 0 told), { st₂ with loaded := found })
        | (.error f, st₂) => (.error f, st₂) := by
  have hsame := sameSources_clearAudits ready
  have hclears := resultOf_eq ready.clears
  generalize (resultOf s.clearAudits st.disk).2 = disk₂ at hsame hclears
  obtain ⟨_, disk₁, hgenerated, hcustom⟩ := resultOf_bind_eq_ok hclears
  refine ⟨cache.change ComputeCache.invalidateAll { st with disk := disk₂ }, hsame, rfl, ?_⟩
  unfold reload
  rw [resultOf_bind, resultOf_onDisk, hgenerated]
  dsimp only
  rw [resultOf_bind, resultOf_onDisk, hcustom]
  dsimp only
  rw [resultOf_bind, resultOf_modify]
  dsimp only
  rw [resultOf_bind]
  rcases resultOf (s.compileEach s.configured) _ with ⟨_ | ⟨found, told⟩, st₂⟩ <;> rfl

/-- Without a rule-set that breaks the reload, the artifacts of those that compile are published, and
it is told once of each other one why it does not compile. -/
theorem reload_of_sound (ready : s.IsReady st.disk)
    (sound : ∀ e ∈ s.configured, ¬ s.Breaks st.disk e) :
    ∃ st', st'.loaded = s.configured.filterMap (s.artifact? st.disk) ∧
      resultOf s.reload st = (.ok (.ofCount component st'.loaded.length 0
        (s.configured.filterMap (s.complaint? st.disk))), st') := by
  obtain ⟨st₁, hsame, -, hreload⟩ := resultOf_reload ready
  have hcompile := resultOf_compileEach ready (fun _ => id) hsame sound
  rw [resultOf_eq hcompile] at hreload
  exact ⟨{ (resultOf (s.compileEach s.configured) st₁).2 with loaded := _ }, rfl, hreload⟩

/-- A rule-set that breaks the reload leaves what was served before. -/
theorem reload_of_breaks (ready : s.IsReady st.disk)
    (breaks : ∃ e ∈ s.configured, s.Breaks st.disk e) :
    ∃ st', st'.loaded = st.loaded ∧
      resultOf s.reload st = (.error (.refused .unwritable), st') := by
  obtain ⟨st₁, hsame, hloaded, hreload⟩ := resultOf_reload ready
  have hcompile := resultOf_compileEach_of_breaks ready (fun _ => id) hsame breaks
  rw [resultOf_eq hcompile] at hreload
  exact ⟨_, (keeps_compileEach isAside_served s.configured st₁).trans hloaded, hreload⟩

/-! ## Isolation -/

theorem lookup_filterMap {κ α β : Type} [DecidableEq κ] {f : κ × α → Option β} (k : κ)
    {xs : List (κ × α)} (h : (xs.map Prod.fst).Nodup) :
    (xs.filterMap fun x => (f x).map fun b => (x.1, b)).lookup k =
      (xs.lookup k).bind fun a => f (k, a) := by
  induction xs with
  | nil => rfl
  | cons x xs ih =>
      obtain ⟨hnew, hrest⟩ := List.nodup_cons.mp h
      obtain ⟨k', a⟩ := x
      rw [List.filterMap_cons, List.lookup_cons]
      by_cases hk : k = k'
      · subst hk
        have hnone : xs.lookup k = none := by
          refine List.lookup_eq_none_iff.mpr fun y hy => bne_iff_ne.mpr ?_
          rintro rfl
          exact hnew (List.mem_map.mpr ⟨y, hy, rfl⟩)
        cases hf : f (k, a) with
        | none => simp [ih hrest, hnone, hf]
        | some b => simp [hf]
      · cases hf : f (k', a) with
        | none => simp [ih hrest, beq_false_of_ne hk]
        | some b => simp [List.lookup_cons, ih hrest, beq_false_of_ne hk]

/-- Two set-ups agree on a type: it has the same settings, the same source and the same global
assertions, and is compiled with the same tools. -/
structure AgreesOn (s s' : RuleSets) (disk disk' : Disk) (t : RuleSetType) : Prop where
  setting : s'.configured.lookup t = s.configured.lookup t
  source : ∀ c, s.configured.lookup t = some c → s'.source? disk' c = s.source? disk c
  globals : s'.globalsFor t = s.globalsFor t
  engine : s'.engine = s.engine
  compiler : s'.compiler = s.compiler
  present : s'.present = s.present

theorem AgreesOn.built_eq (agrees : s.AgreesOn s' disk disk' t) {c : Config.RuleSet}
    (hc : s.configured.lookup t = some c) : s'.built disk' (t, c) = s.built disk (t, c) := by
  unfold built made injected
  rw [agrees.source c hc, agrees.globals, agrees.engine, agrees.compiler, agrees.present]

/-- What is published for a type. -/
theorem lookup_published (ready : s.IsReady disk) (t : RuleSetType) :
    (s.configured.filterMap (s.artifact? disk)).lookup t =
      (s.configured.lookup t).bind fun c => (s.built disk (t, c)).toOption :=
  lookup_filterMap t ready.distinct

/-- Set-ups that agree on a type publish the same for it. -/
theorem AgreesOn.lookup_published_eq (agrees : s.AgreesOn s' disk disk' t) (ready : s.IsReady disk)
    (ready' : s'.IsReady disk') :
    (s'.configured.filterMap (s'.artifact? disk')).lookup t =
      (s.configured.filterMap (s.artifact? disk)).lookup t := by
  rw [lookup_published ready, lookup_published ready', agrees.setting]
  exact Option.bind_congr fun c hc => congrArg Except.toOption (agrees.built_eq hc)

/-- A reload deals with each rule-set by itself, unless there is one that breaks it. It comes to its
end: what the rule-sets that compile come to is published, and it is told once of each other one why
it does not compile. What is published for a type is what any other set-up publishes that agrees on
the type. If there is one that breaks it, the reload fails, and what was served before stays. -/
theorem reload_isolates (ready : s.IsReady st.disk) :
    ((∀ e ∈ s.configured, ¬ s.Breaks st.disk e) →
      ∃ st', st'.loaded = s.configured.filterMap (s.artifact? st.disk) ∧
        resultOf s.reload st = (.ok (.ofCount component st'.loaded.length 0
          (s.configured.filterMap (s.complaint? st.disk))), st') ∧
        ∀ {s' : RuleSets} {begun ended : RuleSetState} {result : ReloadResult} {t : RuleSetType},
          s'.IsReady begun.disk → s.AgreesOn s' st.disk begun.disk t →
          resultOf s'.reload begun = (.ok result, ended) →
            ended.loaded.lookup t = st'.loaded.lookup t) ∧
    ((∃ e ∈ s.configured, s.Breaks st.disk e) →
      ∃ st', st'.loaded = st.loaded ∧
        resultOf s.reload st = (.error (.refused .unwritable), st')) := by
  refine ⟨fun sound => ?_, reload_of_breaks ready⟩
  obtain ⟨st', hloaded, hreload⟩ := reload_of_sound ready sound
  refine ⟨st', hloaded, hreload, fun {s' begun ended result t} ready' agrees hother => ?_⟩
  have sound' : ∀ e ∈ s'.configured, ¬ s'.Breaks begun.disk e := by
    intro e he hbreaks
    obtain ⟨ended', -, hbroken⟩ := reload_of_breaks ready' ⟨e, he, hbreaks⟩
    rw [hother] at hbroken
    cases hbroken
  obtain ⟨ended', hpublished, hended⟩ := reload_of_sound ready' sound'
  rw [hother] at hended
  cases hended
  rw [hpublished, hloaded, agrees.lookup_published_eq ready ready']

/-! ### Two types -/

/-- Rule-sets of two types, with global assertions. -/
def twoTypes (globals : Assertions) : RuleSets :=
  { letThrough with
    configured := [(.ubltrMain, { path := "main.sch" }), (.earchiveReport, { path := "report.sch" })]
    globals }

/-- A source without rules. -/
def noRules : Bytes := bytesOf "<schema xmlns=\"http://purl.oclc.org/dsdl/schematron\"/>"

/-- Sources of two types on the disk: one that is given, and one without rules. -/
def withMain (main : Bytes) : RuleSetState where
  disk :=
    { nodes :=
        [(["assets"], .folder), (["assets", "main.sch"], .file main),
          (["assets", "report.sch"], .file noRules)] }
  cache := ⟨"results", 1, 60, [], [], 0, 0, 0⟩

theorem place_letThrough :
    letThrough.storage.place "main.sch" = .ok ["assets", "main.sch"] ∧
    letThrough.storage.place "report.sch" = .ok ["assets", "report.sch"] ∧
    letThrough.storage.place (letThrough.storage.generatedFolder ++ "/" ++ generatedFolder) =
      .ok ["assets", "auto-generated", "schematron"] ∧
    letThrough.storage.place (letThrough.storage.generatedFolder ++ "/" ++ customFolder) =
      .ok ["assets", "auto-generated", "schematron-rules"] := by
  decide +kernel

theorem isApart_of_place {store : ProfileStore} {folder : String} {place audits : Path.Place}
    (hplace : store.storage.place store.path = .ok place)
    (haudits : store.storage.place (store.storage.generatedFolder ++ "/" ++ folder) = .ok audits)
    (h : ¬ audits <+: place) : store.IsApart folder := by
  intro place' audits' hplace' haudits'
  cases hplace.symm.trans hplace'
  cases haudits.symm.trans haudits'
  exact h

theorem isTree_withMain (main : Bytes) : (withMain main).disk.IsTree := by
  have hfile : ∀ (name : String) (k : Nat), k < 2 →
      (withMain main).disk.node? (["assets", name].take k) = some .folder := by
    intro name k hk
    obtain rfl | rfl : k = 0 ∨ k = 1 := by omega
    · rfl
    · rfl
  refine List.forall_mem_cons.mpr ⟨fun k hk => ?_, List.forall_mem_cons.mpr
    ⟨hfile "main.sch", List.forall_mem_singleton.mpr (hfile "report.sch")⟩⟩
  obtain rfl : k = 0 := Nat.lt_one_iff.mp hk
  rfl

theorem isReady_withMain (globals : Assertions) (main : Bytes) :
    (twoTypes globals).IsReady (withMain main).disk := by
  obtain ⟨hmain, hreport, hgenerated, hcustom⟩ := place_letThrough
  refine ⟨?_, ?_, ?_, ?_, isTree_withMain main, ?_⟩
  · show [RuleSetType.ubltrMain, .earchiveReport].Nodup
    decide
  · refine List.forall_mem_cons.mpr ⟨fun place hplace => ?_, List.forall_mem_singleton.mpr
      fun place hplace => ?_⟩
    · cases hmain.symm.trans hplace
      unfold Disk.HasNames
      decide
    · cases hreport.symm.trans hplace
      unfold Disk.HasNames
      decide
  · exact List.forall_mem_cons.mpr
      ⟨⟨rfl, isApart_of_place hmain hgenerated (by decide),
        isApart_of_place hmain hcustom (by decide)⟩,
      List.forall_mem_singleton.mpr
        ⟨rfl, isApart_of_place hreport hgenerated (by decide),
          isApart_of_place hreport hcustom (by decide)⟩⟩
  · show Markup.isWritable "now" = true
    decide
  · show (resultOf letThrough.clearAudits (withMain main).disk).1 = .ok ⟨⟩
    unfold clearAudits Storage.clearGenerated Storage.generatedPlace Storage.placeOf
    rw [hgenerated, hcustom]
    rfl

/-- A check for one type, which a document can hold. -/
def withId : RuleSets := twoTypes [("EARCHIVE_REPORT", [hasId])]

theorem not_breaks_withId (disk : Disk) : ∀ e ∈ withId.configured, ¬ withId.Breaks disk e := by
  refine List.forall_mem_cons.mpr ⟨?_, List.forall_mem_singleton.mpr ?_⟩
  · rintro ⟨-, _, -, -, c, hc, -⟩
    cases hc
  · rintro ⟨-, _, -, -, c, hc, hheld⟩
    obtain rfl : c = ⟨"Invoice", "ID", "no id", none⟩ := List.mem_singleton.mp hc
    exact hheld ⟨by decide, by decide, by decide, by simp⟩

theorem source?_report (main : Bytes) :
    withId.source? (withMain main).disk { path := "report.sch" } =
      some ⟨noRules, some "/assets/report.sch"⟩ := by
  unfold source? ProfileStore.document sourceAt
  rw [show withId.storage.place "report.sch" = _ from place_letThrough.2.1]
  rfl

theorem agreesOn_report (main main' : Bytes) :
    withId.AgreesOn withId (withMain main).disk (withMain main').disk .earchiveReport where
  setting := rfl
  source c hc := by
    cases hc
    rw [source?_report, source?_report]
  globals := rfl
  engine := rfl
  compiler := rfl
  present := rfl

/-- A source that is no document. -/
def malformed : Bytes := bytesOf "<"

/-- What comes of the two types if the source of one is malformed. -/
theorem published_malformed :
    (∃ a, withId.configured.filterMap (withId.artifact? (withMain malformed).disk) =
      [(.earchiveReport, a)]) ∧
    withId.configured.filterMap (withId.complaint? (withMain malformed).disk) =
      ["UBLTR_MAIN: Rule source is not well-formed"] := by
  have hresults : (withId.configured.filterMap
      (withId.artifact? (withMain malformed).disk)).map Prod.fst = [.earchiveReport] ∧
    withId.configured.filterMap (withId.complaint? (withMain malformed).disk) =
      ["UBLTR_MAIN: Rule source is not well-formed"] := by
    decide +kernel
  obtain ⟨⟨t, a⟩, hone, ht⟩ := List.map_eq_singleton_iff.mp hresults.1
  obtain rfl : t = .earchiveReport := ht
  exact ⟨⟨a, hone⟩, hresults.2⟩

theorem reload_isolates_of_malformed : ∃ (st' ended : RuleSetState) (a : Artifact)
    (result : ReloadResult),
    resultOf withId.reload (withMain malformed) =
      (.ok { component, status := .partly, loaded := 1,
             errors := ["UBLTR_MAIN: Rule source is not well-formed"] }, st') ∧
      st'.loaded = [(.earchiveReport, a)] ∧
      resultOf withId.reload (withMain noRules) = (.ok result, ended) ∧
      ended.loaded.lookup .earchiveReport = some a := by
  have hready : ∀ main, withId.IsReady (withMain main).disk := isReady_withMain _
  obtain ⟨st', hloaded, hreload, hisolates⟩ :=
    (reload_isolates (hready malformed)).1 (not_breaks_withId _)
  obtain ⟨ended, -, hended⟩ := reload_of_sound (hready noRules) (not_breaks_withId _)
  have hsame := hisolates (hready noRules) (agreesOn_report _ _) hended
  obtain ⟨⟨a, hone⟩, htold⟩ := published_malformed
  rw [hone] at hloaded
  rw [htold, hloaded] at hreload
  rw [hloaded] at hsame
  exact ⟨st', ended, a, _, hreload, hloaded, hended, hsame⟩

/-- An assertion with a control character. -/
def withControl : RuleSets :=
  twoTypes [("UBLTR_MAIN", [{ context := "\x01", test := "ID", message := "no id" }])]

/-- A control character in an assertion for one type breaks the reload, and the other type is not
loaded, though it compiles. -/
theorem reload_broken_by_control :
    (∃ a, (resultOf (withControl.compile .earchiveReport) (withMain noRules)).1 = .ok a) ∧
      ∃ st', resultOf withControl.reload (withMain noRules) = (.error (.refused .unwritable), st') ∧
        st'.loaded = [] := by
  have hbreaks : withControl.Breaks (withMain noRules).disk (.ubltrMain, { path := "main.sch" }) := by
    refine ⟨rfl, ⟨noRules, some "/assets/main.sch"⟩, ?_, by decide +kernel,
      ⟨"\x01", "ID", "no id", none⟩, List.mem_singleton.mpr rfl, fun h => ?_⟩
    · unfold source? ProfileStore.document sourceAt
      rw [show withControl.storage.place "main.sch" = _ from place_letThrough.1]
      rfl
    · exact absurd h.context (by decide)
  obtain ⟨st', hloaded, hreload⟩ :=
    reload_of_breaks (isReady_withMain _ noRules) ⟨_, List.mem_cons_self, hbreaks⟩
  exact ⟨exists_of_isOk (by decide +kernel), st', hreload, hloaded⟩

end Conformity.RuleSets
