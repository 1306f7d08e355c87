import Conformity.Proofs.Injection.Writable
import Conformity.Proofs.Profile.Document
import Conformity.Proofs.RuleSet.Callers
import Conformity.Proofs.Storage.Disk

/-!
# What a rule-set is compiled to

What becomes of a configured rule-set follows from its source and the global assertions for its type
(`RuleSets.resultOf_compile`); what the engine has done before and what becomes of the files for
audits does not bear on it. It fails with a failure of the library's own, unless there is an
assertion that no document can hold (`RuleSets.isOwn_of_built_eq_error`).

A rule-set that comes as a source is compiled from it with exactly the checks of the global assertions
for its type, and from the source as it is if there are none (`RuleSets.isBase_of_compile`).
-/

namespace Conformity

/-! ## Base rule-sets -/

namespace RuleSets

section Base

variable {s : RuleSets} {t : RuleSetType} {a : Artifact} {st st' : RuleSetState}

/-- A rule-set is to be compiled from a source. -/
def IsSource (s : RuleSets) (t : RuleSetType) : Prop :=
  ∃ c, s.configured.lookup t = some c ∧ c.kind = .source

/-- An artifact was compiled from the source of a type, as a disk has it, with exactly the checks of
some assertions injected; from the source as it is if there are none. -/
def IsBase (s : RuleSets) (disk : Disk) (t : RuleSetType) (as : List Assertion) (a : Artifact) :
    Prop :=
  ∃ (st : RuleSetState) (log : EngineLog) (source compiled : RuleSource), st.disk = disk ∧
    (resultOf (s.source t) st).1 = .ok source ∧
      (if as = [] then compiled = source else IsInjected source compiled as globalProfile) ∧
        (resultOf (Artifact.compile s.engine s.compiler compiled t.name) log).1 = .ok a

theorem isInjected_of_inject {source injected : RuleSource} {as : List Assertion} {profile : String}
    {generated : String} (h : Injection.inject source as (some profile) generated = .ok injected) :
    IsInjected source injected as profile := by
  obtain ⟨d, remark, pattern, hread, hbytes, hid, hchecks⟩ := Injection.inject_eq_ok h
  refine ⟨d, remark, pattern, hread, hbytes, hid, fun c => ?_⟩
  rw [hchecks.mem_iff, List.mem_filterMap]

theorem resultOf_setting {c : Config.RuleSet} (h : s.configured.lookup t = some c)
    (st : RuleSetState) : resultOf (s.setting t) st = (.ok c, st) := by
  unfold setting
  rw [h]
  rfl

/-- A rule-set is compiled with the checks of the global assertions for its type. -/
theorem isBase_of_compile (hsource : s.IsSource t) (h : resultOf (s.compile t) st = (.ok a, st')) :
    s.IsBase st.disk t (s.globalsFor t) a := by
  obtain ⟨c, hc, hkind⟩ := hsource
  unfold compile at h
  rw [resultOf_bind, resultOf_setting hc] at h
  obtain ⟨source, st₁, hread, h⟩ := resultOf_bind_eq_ok h
  rw [hkind] at h
  dsimp only at h
  split at h
  · next hempty =>
    obtain ⟨log, hlog⟩ := withEngine_eq_ok h
    refine ⟨st, log, source, source, rfl, by rw [hread], ?_, hlog⟩
    rw [if_pos (List.isEmpty_iff.mp hempty)]
  · next hnonempty =>
    obtain ⟨injected, st₂, hinjected, h⟩ := resultOf_bind_eq_ok h
    obtain ⟨artifact, st₃, hartifact, h⟩ := resultOf_bind_eq_ok h
    obtain ⟨_, st₄, -, h⟩ := resultOf_bind_eq_ok h
    cases h
    obtain ⟨log, hlog⟩ := withEngine_eq_ok hartifact
    refine ⟨st, log, source, injected, rfl, by rw [hread], ?_, hlog⟩
    rw [if_neg (mt List.isEmpty_iff.mpr hnonempty)]
    exact isInjected_of_inject (inject_eq_ok hinjected)

end Base

end RuleSets

namespace Artifact

variable {e : Engine} {c : Config.Compiler} {source : RuleSource} {content : Bytes} {name : String}

/-! ## The engine -/

theorem isSteady_pass {base : Option String} {stage : Stage} {document : Bytes} :
    IsSteady (pass e c base name stage document) := by
  refine .bind (.update _) fun _ => ?_
  split
  · exact .pure _
  · exact .throw _

theorem isSteady_compileStylesheet {fault : EngineFault → CompilationFault} :
    IsSteady (compileStylesheet e content fault) := by
  refine .bind (.update _) fun _ => ?_
  split
  · exact .pure _
  · exact .throw _

theorem isSteady_pure? {α : Type} (x : Except CompilationFault α) : IsSteady (pure? x) := by
  cases x with
  | ok a => exact .pure a
  | error f => exact .throw f

theorem isSteady_compile : IsSteady (compile e c source name) :=
  .bind (.foldlM (fun _ _ => isSteady_pass) _ _) fun _ =>
    .bind (isSteady_pure? _) fun _ => .bind (isSteady_pure? _) fun _ =>
      .bind isSteady_compileStylesheet fun _ => .pure _

theorem isSteady_load : IsSteady (load e content name) :=
  .bind isSteady_compileStylesheet fun _ => .pure _

/-- What comes of work with an engine that has done nothing before. -/
def outcome (x : Work Artifact) : Except Failure Artifact := (resultOf x {}).1.mapError .compilation

theorem isOwn_of_outcome_eq_error {x : Work Artifact} {f : Failure} (h : outcome x = .error f) :
    f.isOwn = true := by
  unfold outcome at h
  cases hx : (resultOf x {}).1 with
  | ok a =>
      rw [hx] at h
      cases h
  | error fault =>
      rw [hx] at h
      cases h
      rfl

end Artifact

namespace RuleSets

variable {s : RuleSets} {t : RuleSetType} {c : Config.RuleSet} {st : RuleSetState} {disk : Disk}

theorem resultOf_withEngine {x : Artifact.Work Artifact} (h : IsSteady x) (st : RuleSetState) :
    (resultOf (withEngine x) st).1 = Artifact.outcome x :=
  congrArg (Except.mapError Failure.compilation) (h st.log {})

theorem resultOf_onDisk {α : Type} (a : Disk.Action α) (st : RuleSetState) :
    resultOf (onDisk a) st =
      ((resultOf a st.disk).1, { st with disk := (resultOf a st.disk).2 }) :=
  rfl

/-! ## Sources -/

/-- Where the source of a configured rule-set lies: a document of the storage, like that of the
profiles. -/
def sourceAt (s : RuleSets) (c : Config.RuleSet) : ProfileStore := ⟨s.storage, c.path⟩

/-- The source of a configured rule-set, if it is there. -/
def source? (s : RuleSets) (disk : Disk) (c : Config.RuleSet) : Option RuleSource :=
  ((s.sourceAt c).document disk).map fun content =>
    ⟨content, (s.storage.place c.path).toOption.map Path.text⟩

/-- No name on the way to a source is too long. -/
def HasNames (s : RuleSets) (c : Config.RuleSet) : Prop :=
  ∀ place, s.storage.place c.path = .ok place → Disk.HasNames place

theorem resultOf_isAsset (short : s.HasNames c) (disk : Disk) :
    resultOf (s.storage.isAsset c.path) disk =
      (.ok ((s.sourceAt c).document disk).isSome, disk) := by
  unfold Storage.isAsset ProfileStore.document sourceAt
  cases hplace : s.storage.place c.path with
  | ok place => exact Disk.resultOf_isFile (short place hplace) disk
  | error e => rfl

theorem resultOf_locate {content : Bytes} (h : (s.sourceAt c).document disk = some content) :
    ∃ place, s.storage.place c.path = .ok place ∧
      resultOf (s.storage.locate c.path) disk = (.ok place, disk) := by
  obtain ⟨place, hplace, hfind⟩ := ProfileStore.find_of_document h
  refine ⟨place, hplace, ?_⟩
  have hholds : resultOf (Disk.holds place) disk = (.ok true, disk) := by
    unfold Disk.holds
    rw [resultOf_bind, Disk.resultOf_look_of_ok hfind]
    rfl
  unfold Storage.locate Storage.placeOf
  rw [show s.storage.place c.path = .ok place from hplace]
  show resultOf (Disk.holds place >>= _) disk = _
  rw [resultOf_bind, hholds]
  rfl

/-- The source of a type is read, or it is told that it is not there. -/
theorem resultOf_source (hc : s.configured.lookup t = some c) (short : s.HasNames c)
    (st : RuleSetState) : (resultOf (s.source t) st).1 =
      match s.source? st.disk c with
      | some source => .ok source
      | none => .error (.unavailable (.missingRuleSet t.name c.path)) := by
  unfold source source?
  rw [resultOf_bind, resultOf_setting hc]
  dsimp only
  rw [resultOf_bind, resultOf_onDisk, resultOf_isAsset short]
  cases hdocument : (s.sourceAt c).document st.disk with
  | none => rfl
  | some content =>
      obtain ⟨place, hplace, hlocate⟩ := resultOf_locate hdocument
      have hread := ProfileStore.resultOf_read_of_document hdocument
      show (resultOf (onDisk (s.storage.locate c.path) >>= _) st).1 = _
      rw [resultOf_bind, resultOf_onDisk, hlocate]
      show (resultOf (onDisk ((s.sourceAt c).storage.read (s.sourceAt c).path) >>= _) st).1 = _
      rw [resultOf_bind, resultOf_onDisk, hread, hplace]
      rfl

/-! ## Files for audits -/

/-- The folders for audits have places. -/
def CanAudit (s : RuleSets) : Prop :=
  ∀ folder ∈ [generatedFolder, customFolder], ∃ place,
    s.storage.place (s.storage.generatedFolder ++ "/" ++ folder) = .ok place

/-- Whether a file for audits can be written harms nothing. -/
theorem resultOf_writeAudit {folder name : String} {place : Path.Place}
    (hplace : s.storage.place (s.storage.generatedFolder ++ "/" ++ folder) = .ok place)
    (hname : (name.toList.any fun c => c.toNat == 0) = false) (content : Bytes)
    (st : RuleSetState) : (resultOf (s.writeAudit folder name content) st).1 = .ok ⟨⟩ := by
  let write : Work Unit := do let _ ← onDisk (s.storage.writeGenerated folder name content)
  have hfails : FailsOnly Failure.isSystem write :=
    .bind (.lift (Storage.failsOnly_writeGenerated hplace hname content)) fun _ => .pure _
  have hwrite := @hfails st
  show (resultOf (tryCatch write _) st).1 = _
  rw [resultOf_tryCatch]
  rcases heq : resultOf write st with ⟨r, st₁⟩
  rw [heq] at hwrite
  cases r with
  | ok a => rfl
  | error e =>
      dsimp only
      rw [if_pos (hwrite rfl)]
      rfl

theorem not_any_nul_of_isWritable {name : String} (h : Markup.isWritable name = true) :
    (name.toList.any fun c => c.toNat == 0) = false := by
  refine List.any_eq_false.mpr fun c hc hnul => ?_
  have hchar := List.all_eq_true.mp h c hc
  simp only [Markup.isDocumentChar, Markup.isSpace, beq_iff_eq] at hchar hnul
  rw [Char.ext (UInt32.toNat_inj.mp hnul : c.val = (Char.ofNat 0).val)] at hchar
  exact absurd hchar (by decide)

theorem isWritable_name (t : RuleSetType) : Markup.isWritable t.name = true := by
  cases t <;> decide

theorem resultOf_writeGeneratedAudit (audits : s.CanAudit) (t : RuleSetType) (content : Bytes)
    (st : RuleSetState) :
    (resultOf (s.writeAudit generatedFolder (t.name ++ ".xsl") content) st).1 = .ok ⟨⟩ := by
  obtain ⟨place, hplace⟩ := audits generatedFolder (by simp)
  have hname := Injection.isWritable_append.mpr ⟨isWritable_name t, (by decide :
    Markup.isWritable ".xsl" = true)⟩
  exact resultOf_writeAudit hplace (not_any_nul_of_isWritable hname) content st

theorem resultOf_writeCustomAudit (audits : s.CanAudit) (t : RuleSetType) (profile : String)
    (injected : Bytes) (a : Artifact) (as : List Assertion) (st : RuleSetState) :
    (resultOf (s.writeCustomAudit t profile injected a as) st).1 = .ok ⟨⟩ := by
  obtain ⟨place, hplace⟩ := audits customFolder (by simp)
  have hname : ∀ ending, Markup.isWritable ending = true → Markup.isWritable
      (t.name ++ "_" ++ safeIdentifier (some profile) ++ "_custom" ++ ending) = true := by
    intro ending hending
    have hparts : Markup.isWritable "_" = true ∧ Markup.isWritable "_custom" = true := by decide
    simp only [Injection.isWritable_append, isWritable_name, Injection.isWritable_safeIdentifier,
      hparts, hending, and_self]
  have hxml := not_any_nul_of_isWritable (hname ".xml" (by decide))
  have hxsl := not_any_nul_of_isWritable (hname ".xsl" (by decide))
  unfold writeCustomAudit
  rw [resultOf_bind, resultOf_eq (resultOf_writeAudit hplace hxml _ st)]
  exact resultOf_writeAudit hplace hxsl _ _

/-! ## Compiling -/

/-- A source with the global assertions for a type injected, if there are any. -/
def injected (s : RuleSets) (t : RuleSetType) (source : RuleSource) : Except Failure RuleSource :=
  if (s.globalsFor t).isEmpty then .ok source
  else
    match Injection.inject source (s.globalsFor t) (some globalProfile) s.present.here with
    | .ok injected => .ok injected
    | .error .malformed => .error .injection
    | .error (.unwritable _) => .error (.refused .unwritable)

/-- What a configured rule-set is compiled to from a source. -/
def made (s : RuleSets) (t : RuleSetType) (c : Config.RuleSet) (source : RuleSource) :
    Except Failure Artifact :=
  match c.kind with
  | .stylesheet => Artifact.outcome (Artifact.load s.engine source.content t.name)
  | .source => do
    Artifact.outcome (Artifact.compile s.engine s.compiler (← s.injected t source) t.name)

/-- What becomes of a configured rule-set, by its source on a disk and the global assertions for its
type. -/
def built (s : RuleSets) (disk : Disk) (e : RuleSetType × Config.RuleSet) :
    Except Failure Artifact :=
  match s.source? disk e.2 with
  | some source => s.made e.1 e.2 source
  | none => .error (.unavailable (.missingRuleSet e.1.name e.2.path))

/-- An injected source is compiled, and files for audits are written if that succeeds. -/
theorem resultOf_compile_injected (audits : s.CanAudit) (injected : RuleSource)
    (as : List Assertion) (st : RuleSetState) :
    (resultOf (do
      let a ← withEngine (Artifact.compile s.engine s.compiler injected t.name)
      s.writeCustomAudit t globalProfile injected.content a as
      return a) st).1 =
        Artifact.outcome (Artifact.compile s.engine s.compiler injected t.name) := by
  rw [resultOf_bind, resultOf_eq (resultOf_withEngine Artifact.isSteady_compile st)]
  cases Artifact.outcome (Artifact.compile s.engine s.compiler injected t.name) with
  | error f => rfl
  | ok a =>
      dsimp only
      rw [resultOf_bind, resultOf_eq (resultOf_writeCustomAudit audits ..)]
      rfl

/-- What a compilation comes to is found from the source and the global assertions. -/
theorem resultOf_compile (hc : s.configured.lookup t = some c) (short : s.HasNames c)
    (audits : s.CanAudit) (st : RuleSetState) :
    (resultOf (s.compile t) st).1 = s.built st.disk (t, c) := by
  have hsource := resultOf_source hc short st
  unfold compile built
  rw [resultOf_bind, resultOf_setting hc]
  dsimp only
  rw [resultOf_bind]
  cases hfound : s.source? st.disk c with
  | none =>
      rw [hfound] at hsource
      rw [resultOf_eq hsource]
  | some source =>
      rw [hfound] at hsource
      rw [resultOf_eq hsource]
      dsimp only
      unfold made injected inject
      cases c.kind with
      | stylesheet => exact resultOf_withEngine Artifact.isSteady_load _
      | source =>
          dsimp only
          split
          · exact resultOf_withEngine Artifact.isSteady_compile _
          · cases Injection.inject source (s.globalsFor t) (some globalProfile) s.present.here with
            | error f => cases f <;> rfl
            | ok injected => exact resultOf_compile_injected audits injected _ _

/-! ## Failing -/

/-- A rule-set breaks a reload: it is to be compiled from a source that can be read, with a check
that no document can hold. -/
def Breaks (s : RuleSets) (disk : Disk) (e : RuleSetType × Config.RuleSet) : Prop :=
  e.2.kind = .source ∧ ∃ source, s.source? disk e.2 = some source ∧
    (Markup.Faithful.read? source.content).isSome = true ∧
      ∃ c ∈ (s.globalsFor e.1).filterMap Assertion.check?, ¬ Injection.IsWritable c

theorem injected_eq_unwritable_iff (dated : Markup.isWritable s.present.here = true)
    {source : RuleSource} : s.injected t source = .error (.refused .unwritable) ↔
      (Markup.Faithful.read? source.content).isSome = true ∧
        ∃ c ∈ (s.globalsFor t).filterMap Assertion.check?, ¬ Injection.IsWritable c := by
  rw [← Injection.exists_inject_eq_unwritable_iff (by decide : Markup.isWritable
    ((some globalProfile).getD "None") = true) dated]
  unfold injected
  split
  · next hempty =>
    -- without assertions there is nothing that could be refused
    rw [Injection.exists_inject_eq_unwritable_iff (by decide) dated, List.isEmpty_iff.mp hempty]
    simp
  · cases Injection.inject source (s.globalsFor t) (some globalProfile) s.present.here with
    | ok injected => simp
    | error f => cases f <;> simp

theorem injected_error_cases {source : RuleSource} {f : Failure}
    (h : s.injected t source = .error f) : f.isOwn = true ∨ f = .refused .unwritable := by
  unfold injected at h
  split at h
  · cases h
  · split at h
    · cases h
    · cases h
      exact .inl rfl
    · cases h
      exact .inr rfl

theorem made_error_cases {source : RuleSource} {f : Failure} (h : s.made t c source = .error f) :
    f.isOwn = true ∨ c.kind = .source ∧ s.injected t source = .error f := by
  unfold made at h
  split at h
  · exact .inl (Artifact.isOwn_of_outcome_eq_error h)
  · next hkind =>
    cases hinjected : s.injected t source with
    | ok injected =>
        rw [hinjected] at h
        exact .inl (Artifact.isOwn_of_outcome_eq_error h)
    | error f' =>
        rw [hinjected] at h
        cases h
        exact .inr ⟨hkind, rfl⟩

theorem Breaks.built_eq (dated : Markup.isWritable s.present.here = true)
    {e : RuleSetType × Config.RuleSet} (h : s.Breaks disk e) :
    s.built disk e = .error (.refused .unwritable) := by
  obtain ⟨hkind, source, hsource, hreads, hcheck⟩ := h
  have hinjected := (injected_eq_unwritable_iff dated).mpr ⟨hreads, hcheck⟩
  unfold built made
  rw [hsource, hkind]
  dsimp only
  rw [hinjected]
  rfl

/-- A rule-set that does not break a reload fails with a failure of the library's own. -/
theorem isOwn_of_built_eq_error (dated : Markup.isWritable s.present.here = true)
    {e : RuleSetType × Config.RuleSet} {f : Failure} (h : s.built disk e = .error f)
    (hbreaks : ¬ s.Breaks disk e) : f.isOwn = true := by
  unfold built at h
  cases hsource : s.source? disk e.2 with
  | none =>
      rw [hsource] at h
      cases h
      rfl
  | some source =>
      rw [hsource] at h
      rcases made_error_cases h with hown | ⟨hkind, hinjected⟩
      · exact hown
      · rcases injected_error_cases hinjected with hown | rfl
        · exact hown
        · have hcheck := (injected_eq_unwritable_iff dated).mp hinjected
          exact absurd ⟨hkind, source, hsource, hcheck⟩ hbreaks

end RuleSets

end Conformity
