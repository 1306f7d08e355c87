import Conformity.Proofs.Cache.Alone
import Conformity.Proofs.RuleSet.Isolation
import Conformity.Proofs.Schema.OverrideKey
import Conformity.Proofs.Workspace.Unserved

/-!
# Disks of a workspace

On a disk everything lies in folders that are there. Assets and files for audits are written into
folders, and folders are removed with all that is in them, so whatever a workspace is asked for, its disk
stays such a tree (`Workspace.isTree_of_reached`).
-/

namespace Conformity

/-! ## Storage -/

namespace Storage

variable {s : Storage} {folder : String}

theorem preserves_writeGenerated (name : String) (content : Bytes) :
    Preserves Disk.IsTree (s.writeGenerated folder name content) := by
  intro disk tree
  cases hplace : s.place (s.generatedFolder ++ "/" ++ folder) with
  | error e =>
      unfold writeGenerated generatedPlace placeOf
      rw [hplace]
      exact tree
  | ok audits =>
      obtain ⟨disk₁, hgrows, ⟨e, hwrite⟩ | ⟨last, hfolder, htakes, hwrite⟩⟩ :=
        writeGenerated_cases hplace name content disk
      · rw [hwrite]
        exact hgrows.tree tree
      · rw [hwrite]
        exact (hgrows.tree tree).put_file hfolder htakes content

theorem preserves_clearGenerated : Preserves Disk.IsTree (s.clearGenerated folder) :=
  fun _ => RuleSets.isTree_clearGenerated s folder

end Storage

namespace ComputeCache

variable {σ κ ν : Type} [DecidableEq κ] {slot : Slot σ (ComputeCache κ ν)} {P : σ → Prop}

/-- What a computation preserves is preserved where its value is obtained through a cache. -/
theorem preserves_obtain {now : Int} {told : String} {key : κ}
    {compute : ExceptT Failure (StateM σ) ν} (h : Preserves P compute)
    (hput : ∀ c st, P st → P (slot.put c st)) : Preserves P (obtain slot now told key compute) := by
  intro st hst
  rw [resultOf_obtain]
  rcases lookUp now key (slot.get st) with ⟨found, cache⟩
  have hfound := hput cache st hst
  cases found with
  | value v => exact hfound
  | running _ => exact hfound
  | absent job => exact hput _ _ (h _ hfound)

end ComputeCache

/-! ## Schemas -/

namespace Schemas

variable {s : Schemas} {t : SchemaType} {α : Type}

/-- Everything on the disk lies in folders. -/
def OnTree (st : SchemaState) : Prop := st.disk.IsTree

theorem OnTree.of_keeps {x : Work α} (h : Keeps disk x) : Preserves OnTree x := Preserves.of_keeps h

theorem keeps_disk_onDisk {a : Disk.Action α} (h : Keeps .whole a) : Keeps disk (onDisk a) :=
  fun st => h st.disk

theorem preserves_onDisk {a : Disk.Action α} (h : Preserves Disk.IsTree a) :
    Preserves OnTree (onDisk a) :=
  h.lift (fun _ h => h) fun _ _ h => h

theorem keeps_disk_path : Keeps disk (s.path t) := by
  unfold path
  split
  · exact .throw _
  · refine .bind (keeps_disk_onDisk (ProfileStore.keeps_isAsset _ _)) fun found => ?_
    split
    · exact .pure _
    · exact .throw _

theorem keeps_disk_compileContent {content : Bytes} {path : String} :
    Keeps disk (s.compileContent t content path) := by
  refine .bind (keeps_disk_onDisk (RuleSets.keeps_locate _ _)) fun _ => .bind (fun _ => rfl) fun _ => ?_
  split
  · exact .pure _
  · exact .throw _

theorem keeps_disk_compile : Keeps disk (s.compile t) :=
  .bind keeps_disk_path fun _ =>
    .bind (keeps_disk_onDisk (ProfileStore.keeps_read _ _)) fun _ => keeps_disk_compileContent

theorem keeps_disk_compileEach (configured : List (SchemaType × String)) :
    Keeps disk (s.compileEach configured) := by
  induction configured with
  | nil => exact .pure _
  | cons setting rest ih =>
      obtain ⟨t, path⟩ := setting
      refine .bind (.tryCatch (.map keeps_disk_compile) fun e => ?_) fun compiled => ?_
      · split
        · exact .pure _
        · exact .throw _
      · refine .bind ih fun (loaded, errors) => ?_
        cases compiled with
        | ok schema => exact .pure _
        | error e => exact .pure _

/-- A reload of the schemas writes nothing. -/
theorem keeps_disk_reload : Keeps disk s.reload :=
  .bind (fun _ => rfl) fun _ => .bind (keeps_disk_compileEach _) fun _ => .bind (fun _ => rfl) fun _ =>
    .pure _

theorem preserves_writeAudit {profile : Option String} {overrides : List Override} {content : Bytes}
    {r : OverrideReport} : Preserves OnTree (s.writeAudit t profile overrides content r) := by
  refine .tryCatch (.bind (preserves_onDisk (Storage.preserves_writeGenerated _ _)) fun _ => .pure _)
    fun e => ?_
  split
  · exact .pure _
  · exact .throw _

theorem keeps_disk_overridden {overrides : List Override} : Keeps disk (s.overridden t overrides) := by
  refine .bind keeps_disk_path fun _ =>
    .bind (keeps_disk_onDisk (ProfileStore.keeps_read _ _)) fun source => ?_
  split
  · exact .pure _
  · exact .throw _

theorem preserves_custom {overrides : List Override} {profile : Option String} :
    Preserves OnTree (s.custom t overrides profile) := by
  refine ComputeCache.preserves_obtain ?_ fun _ _ h => h
  exact .bind (.of_keeps keeps_disk_overridden) fun _ =>
    .bind preserves_writeAudit fun _ => .of_keeps keeps_disk_compileContent

theorem preserves_precompile {type : String} {overrides : List Override} {profile : Option String} :
    Preserves OnTree (s.precompile type overrides profile) := by
  unfold precompile
  split
  · exact .pure _
  · split
    · exact .pure _
    · exact .tryCatch (.map preserves_custom) fun _ => .pure _

theorem preserves_validate {document : Bytes} {overrides : List Override} {profile : Option String} :
    Preserves OnTree (s.validate t document overrides profile) := by
  refine .choose_bind (.bind .get fun _ => .pure _) (.map preserves_custom) fun schema => ?_
  cases schema with
  | none => exact .throw _
  | some schema => exact .pure _

end Schemas

/-! ## Rule-sets -/

namespace RuleSets

variable {s : RuleSets} {t : RuleSetType} {α : Type}

/-- Everything on the disk lies in folders. -/
def OnTree (st : RuleSetState) : Prop := st.disk.IsTree

theorem OnTree.of_keeps {x : Work α} (h : Keeps disk x) : Preserves OnTree x := Preserves.of_keeps h

theorem preserves_onDisk {a : Disk.Action α} (h : Preserves Disk.IsTree a) :
    Preserves OnTree (onDisk a) :=
  h.lift (fun _ h => h) fun _ _ h => h

theorem keeps_disk_onDisk {a : Disk.Action α} (h : Keeps .whole a) : Keeps disk (onDisk a) :=
  fun st => h st.disk

theorem keeps_disk_withEngine {a : Artifact.Work α} : Keeps disk (withEngine a) := fun _ => rfl

theorem keeps_disk_source : Keeps disk (s.source t) := by
  refine .bind keeps_setting fun c =>
    .bind (keeps_disk_onDisk (ProfileStore.keeps_isAsset _ _)) fun found => ?_
  split
  · exact .throw _
  · exact .bind (keeps_disk_onDisk (keeps_locate _ _)) fun _ =>
      .bind (keeps_disk_onDisk (ProfileStore.keeps_read _ _)) fun _ => .pure _

theorem preserves_writeAudit {folder name : String} {content : Bytes} :
    Preserves OnTree (s.writeAudit folder name content) := by
  refine .tryCatch (.bind (preserves_onDisk (Storage.preserves_writeGenerated _ _)) fun _ => .pure _)
    fun e => ?_
  split
  · exact .pure _
  · exact .throw _

/-- A source is compiled, and its files for audits are written. -/
theorem preserves_injected {source : RuleSource} {assertions : List Assertion} {profile told : String} :
    Preserves OnTree (do
      let injected ← s.inject source assertions profile
      let a ← withEngine (Artifact.compile s.engine s.compiler injected told)
      s.writeCustomAudit t profile injected.content a assertions
      return a) :=
  .bind (OnTree.of_keeps keeps_inject) fun _ => .bind (.of_keeps keeps_disk_withEngine) fun _ =>
    .bind (.bind preserves_writeAudit fun _ => preserves_writeAudit) fun _ => .pure _

theorem preserves_compile : Preserves OnTree (s.compile t) := by
  refine .bind (OnTree.of_keeps keeps_setting) fun c => .bind (.of_keeps keeps_disk_source) fun source => ?_
  split
  · exact .of_keeps keeps_disk_withEngine
  · dsimp only
    split
    · exact .of_keeps keeps_disk_withEngine
    · exact preserves_injected

theorem preserves_compileEach (configured : List (RuleSetType × Config.RuleSet)) :
    Preserves OnTree (s.compileEach configured) := by
  induction configured with
  | nil => exact .pure _
  | cons setting rest ih =>
      obtain ⟨t, c⟩ := setting
      refine .bind (.tryCatch (.map preserves_compile) fun e => ?_) fun compiled => ?_
      · split
        · exact .pure _
        · exact .throw _
      · cases compiled with
        | ok a =>
            dsimp only
            split
            · exact .bind preserves_writeAudit fun _ => .bind ih fun _ => .pure _
            · exact .bind ih fun _ => .pure _
        | error e => exact .bind ih fun _ => .pure _

theorem preserves_reload : Preserves OnTree s.reload :=
  .bind (preserves_onDisk Storage.preserves_clearGenerated) fun _ =>
    .bind (preserves_onDisk Storage.preserves_clearGenerated) fun _ =>
      .bind (.update fun _ h => h) fun _ => .bind (preserves_compileEach _) fun _ =>
        .bind (.update fun _ h => h) fun _ => .pure _

theorem preserves_custom {assertions : List Assertion} {profile : Option String} :
    Preserves OnTree (s.custom t assertions profile) := by
  refine ComputeCache.preserves_obtain ?_ fun _ _ h => h
  refine .bind (OnTree.of_keeps keeps_setting) fun c => ?_
  split
  · exact .throw _
  · exact .bind (.of_keeps keeps_disk_source) fun source => preserves_injected

theorem preserves_precompile {type : String} {assertions : List Assertion} {profile : Option String} :
    Preserves OnTree (s.precompile type assertions profile) := by
  unfold precompile
  split
  · exact .pure _
  · split
    · exact .pure _
    · exact .tryCatch (.map preserves_custom) fun _ => .pure _

theorem preserves_run (r : Request) : Preserves OnTree (s.run r) := by
  refine .choose_bind (.bind .get fun _ => .pure _) (.map preserves_custom) fun artifact => ?_
  cases artifact with
  | none => exact .throw _
  | some a =>
      refine .bind (.update fun _ h => h) fun _ => ?_
      split
      · exact .throw _
      · split
        · exact .pure _
        · exact .throw _

end RuleSets

/-! ## Profiles -/

namespace Registry

/-- Everything on the disk lies in folders. -/
def OnTree (st : RegistryState) : Prop := st.disk.IsTree

theorem OnTree.reload (store : ProfileStore) : Preserves OnTree (reload store) := by
  intro st h
  show (resultOf (Registry.reload store) st).2.disk.IsTree
  rwa [disk_reload]

theorem OnTree.run (store : ProfileStore) (edit : Edit) : Preserves OnTree (edit.run store) :=
  fun st h => (Edit.ends_run store st edit).isTree h

end Registry

/-! ## Workspaces -/

namespace Workspace

variable {w : Workspace} {α : Type}

/-- Everything on the disk lies in folders. -/
def OnTree (st : WorkspaceState) : Prop := st.disk.IsTree

namespace OnTree

theorem onProfiles {a : ProfileStore → Registry.Work α}
    (h : Preserves Registry.OnTree (a w.store)) : Preserves OnTree (w.onProfiles a) :=
  h.lift (fun _ h => h) fun _ _ h => h

theorem onSchemas {a : Schemas → Schemas.Work α} (h : Preserves Schemas.OnTree (a w.schemas)) :
    Preserves OnTree (w.onSchemas a) :=
  h.lift (fun _ h => h) fun _ _ h => h

theorem onRuleSets {a : RuleSets → RuleSets.Work α} (h : ∀ s, Preserves RuleSets.OnTree (a s)) :
    Preserves OnTree (w.onRuleSets a) :=
  .bind .get fun _ => (h _).lift (fun _ h => h) fun _ _ h => h

theorem withinLimits (x : Except PatternLimit α) : Preserves OnTree (withinLimits x) := by
  cases x with
  | error l => exact .throw _
  | ok a => exact .pure a

theorem precompile (profile : String) : Preserves OnTree (w.precompile profile) := by
  refine .bind (.bind .get fun _ => .pure _) fun found => ?_
  split
  · exact .pure _
  · refine .bind (.forM (fun e => ?_) _) fun _ => .forM (fun e => ?_) _
    · exact .bind (onSchemas Schemas.preserves_precompile) fun _ => .pure _
    · exact .bind (onRuleSets fun _ => RuleSets.preserves_precompile) fun _ => .pure _

theorem follow (change : ProfileChange) : Preserves OnTree (w.follow change) := by
  refine .bind (.update fun _ h => h) fun _ => ?_
  split
  · exact precompile _
  · exact .pure _

theorem save (p : Profile) : Preserves OnTree (w.save p) :=
  .bind (onProfiles (.of_map (Registry.OnTree.run w.store (.save p)))) follow

theorem delete (name : String) : Preserves OnTree (w.delete name) := by
  refine .bind (onProfiles (Registry.OnTree.run w.store (.delete name))) fun found => ?_
  split
  · exact .bind (follow _) fun _ => .pure _
  · exact .pure _

/-- The global assertions are replaced, and nothing is compiled yet. -/
theorem replaceGlobals (globals : Assertions) : Preserves OnTree
    (do w.follow (← w.onProfiles fun store => Registry.saveGlobals store globals)) :=
  .bind (onProfiles (.of_map (Registry.OnTree.run w.store (.saveGlobals globals)))) follow

theorem saveGlobals (globals : Assertions) : Preserves OnTree (w.saveGlobals globals) :=
  .bind (onProfiles (.of_map (Registry.OnTree.run w.store (.saveGlobals globals)))) fun change =>
    .bind (follow change) fun _ =>
      .holding (onRuleSets fun _ => RuleSets.preserves_reload) fun _ _ h => h

theorem validate (r : Request) : Preserves OnTree (w.validate r) := by
  have hschemas : Preserves OnTree (w.schemaErrors r) := by
    unfold schemaErrors
    split
    · exact .pure _
    · exact .bind .get fun _ => .bind (onSchemas Schemas.preserves_validate) fun _ =>
        .bind .get fun _ => .bind (withinLimits _) fun _ => .pure _
  have hfindings : Preserves OnTree (w.findings r) :=
    .bind .get fun _ => onRuleSets fun _ => RuleSets.preserves_run _
  exact .bind hschemas fun _ => .bind hfindings fun _ =>
    .bind (.bind .get fun _ => withinLimits _) fun _ => .pure _

theorem impact (t : RuleSetType) (source : Bytes) : Preserves OnTree (w.impact t source) := by
  refine .bind (onRuleSets fun _ => RuleSets.OnTree.of_keeps RuleSets.keeps_disk_source) fun old => ?_
  refine .bind (onProfiles fun st h => ?_) fun document => ?_
  · have hload := ProfileStore.keeps_load w.store st.disk
    exact (congrArg Disk.IsTree hload).mpr h
  · split
    · exact .throw _
    · exact withinLimits _

/-- A reload of one part leaves everything in folders. -/
theorem part {s : Subsystem WorkspaceState} (hs : s ∈ w.subsystems) {st : WorkspaceState}
    (h : OnTree st) : OnTree (s.reload st).2 := by
  simp only [subsystems, List.mem_cons, List.not_mem_nil, or_false] at hs
  rcases hs with rfl | rfl | rfl
  · exact onProfiles (Registry.OnTree.reload _) st h
  · exact onSchemas (Schemas.OnTree.of_keeps Schemas.keeps_disk_reload) st h
  · exact (onRuleSets fun _ => RuleSets.preserves_reload :
      Preserves OnTree (w.onRuleSets RuleSets.reload)) st h

theorem reloadEach {subsystems : List (Subsystem WorkspaceState)}
    (hsub : subsystems ⊆ w.subsystems) (done : List ReloadResult) {st : WorkspaceState}
    (h : OnTree st) : OnTree (reloadEach done subsystems st).2 := by
  induction subsystems generalizing done st with
  | nil => exact h
  | cons s rest ih =>
      obtain ⟨hs, hrest⟩ := List.cons_subset.mp hsub
      rw [Reception.reloadEach_cons]
      split
      · exact ih hrest _ (part hs h)
      · exact part hs h

theorem reload {st : WorkspaceState} (h : OnTree st) : OnTree (w.reload st).2 := by
  show OnTree (reloadAll deskSlot w.subsystems st).2
  by_cases hlocked : (deskSlot.get st).locked
  · rw [Reception.reloadAll_of_locked hlocked]
    exact h
  · rw [Reception.reloadAll_of_free (by simpa using hlocked)]
    have htaken : OnTree (deskSlot.change ReloadDesk.taken st) := h
    exact reloadEach (List.Subset.refl _) [] htaken

end OnTree

/-! ## Runs of a workspace -/

/-- States that a run comes through. Files may be changed by somebody else as long as everything lies in
folders. -/
inductive Reached (w : Workspace) (st₀ : WorkspaceState) : WorkspaceState → Prop
  | start : Reached w st₀ st₀
  | event {st : WorkspaceState} (present : Present) (e : Event)
      (tree : ∀ disk, e = .files disk → disk.IsTree) (h : Reached w st₀ st) :
      Reached w st₀ (e.next { w with present } st)
  /-- One part is reloaded, by itself or on the way of a reload of everything. -/
  | part {st : WorkspaceState} (present : Present) (desk : ReloadDesk) {s : Subsystem WorkspaceState}
      (hs : s ∈ ({ w with present } : Workspace).subsystems) (h : Reached w st₀ st) :
      Reached w st₀ (s.reload { st with desk }).2
  /-- The global assertions are replaced, and the rule-sets are about to be reloaded. -/
  | replaced {st : WorkspaceState} (present : Present) (globals : Assertions) (h : Reached w st₀ st) :
      Reached w st₀ (lockSlot.put true (resultOf (do
        ({ w with present } : Workspace).follow
          (← ({ w with present } : Workspace).onProfiles
            fun store => Registry.saveGlobals store globals)) st).2)

theorem Event.onTree_next (w : Workspace) (e : Event) {st : WorkspaceState} (h : OnTree st)
    (tree : ∀ disk, e = .files disk → disk.IsTree) : OnTree (e.next w st) := by
  cases e with
  | reload => exact OnTree.reload h
  | save p => exact OnTree.save p st h
  | delete name => exact OnTree.delete name st h
  | saveGlobals globals => exact OnTree.saveGlobals globals st h
  | precompile profile => exact OnTree.precompile profile st h
  | validate r => exact OnTree.validate r st h
  | override t overrides profile => exact OnTree.onSchemas Schemas.preserves_custom st h
  | custom t assertions profile => exact OnTree.onRuleSets (fun _ => RuleSets.preserves_custom) st h
  | impact t source => exact OnTree.impact t source st h
  | files disk => exact tree disk rfl

/-- Whatever happens to a workspace, everything on its disk lies in folders. -/
theorem isTree_of_reached {st₀ st : WorkspaceState} (h : Reached w st₀ st) (htree : st₀.disk.IsTree) :
    st.disk.IsTree := by
  induction h with
  | start => exact htree
  | event present e tree _ ih => exact e.onTree_next { w with present } ih tree
  | part present desk hs _ ih => exact OnTree.part hs ih
  | replaced present globals _ ih => exact OnTree.replaceGlobals globals _ ih

end Workspace

end Conformity
