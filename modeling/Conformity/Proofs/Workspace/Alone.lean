import Conformity.Proofs.RuleSet.Alone
import Conformity.Proofs.Workspace.Audits
import Conformity.Proofs.Workspace.Calls

/-!
# Calls of a workspace by themselves

To save global assertions is a run of one call, if nobody else interferes (`Calls.reaches_of_save`), so
calls of the program are calls as `Workspace.Calls` has them.
-/

namespace Conformity

namespace RuleSets

variable {s : RuleSets} {store : ProfileStore} {t : RuleSetType} {setting : Config.RuleSet}
  {rest : List (RuleSetType × Config.RuleSet)} {st st' : RuleSetState}
  {found : List (RuleSetType × Artifact)} {told : List String}

/-- The first of several rule-sets compiles, or it is told why not; then come the others. -/
theorem compileEach_cons_eq_ok (apart : s.AreApart store) (tree : st.disk.IsTree)
    (h : resultOf (s.compileEach ((t, setting) :: rest)) st = (.ok (found, told), st')) :
    ∃ st₁, store.Unchanged st.disk st₁.disk ∧
      ((∃ a found', (resultOf (s.compile t) st).1 = .ok a ∧ found = (t, a) :: found' ∧
          resultOf (s.compileEach rest) st₁ = (.ok (found', told), st')) ∨
        ∃ f told', (resultOf (s.compile t) st).1 = .error f ∧ f.isOwn = true ∧
          told = (t.name ++ ": " ++ f.message) :: told' ∧
          resultOf (s.compileEach rest) st₁ = (.ok (found, told'), st')) := by
  unfold compileEach at h
  obtain ⟨compiled, st₁, hcompiled, h⟩ := resultOf_bind_eq_ok h
  have hspared := spares_compile (t := t) apart st tree
  rw [resultOf_tryCatch, resultOf_map] at hcompiled
  rcases hrun : resultOf (s.compile t) st with ⟨r, st₂⟩
  rw [hrun] at hcompiled hspared
  cases r with
  | ok a =>
      cases hcompiled
      dsimp only at h
      split at h
      · obtain ⟨_, st₃, haudit, h⟩ := resultOf_bind_eq_ok h
        obtain ⟨⟨found', told'⟩, st₄, hrest, h⟩ := resultOf_bind_eq_ok h
        cases h
        have haudited := spares_writeAudit apart apart.generated (t.name ++ ".xsl") a.generated st₂
          (hspared.tree tree)
        rw [haudit] at haudited
        exact ⟨st₃, hspared.trans haudited, .inl ⟨a, found', rfl, rfl, hrest⟩⟩
      · obtain ⟨⟨found', told'⟩, st₄, hrest, h⟩ := resultOf_bind_eq_ok h
        cases h
        exact ⟨st₂, hspared, .inl ⟨a, found', rfl, rfl, hrest⟩⟩
  | error f =>
      dsimp only [Except.map] at hcompiled
      split at hcompiled
      · next hown =>
        cases hcompiled
        obtain ⟨⟨found', told'⟩, st₄, hrest, h⟩ := resultOf_bind_eq_ok h
        cases h
        exact ⟨_, hspared, .inr ⟨f, told', rfl, hown, rfl, hrest⟩⟩
      · cases hcompiled

/-- The folders for audits are cleared, all rule-sets are compiled, and those that compile are
served. -/
theorem reload_eq_ok {result : ReloadResult} (apart : s.AreApart store) (tree : st.disk.IsTree)
    (h : resultOf s.reload st = (.ok result, st')) :
    ∃ st₁ st₂ found told, store.Unchanged st.disk st₁.disk ∧
      resultOf (s.compileEach s.configured) st₁ = (.ok (found, told), st₂) ∧ st'.disk = st₂.disk ∧
        st'.loaded = found ∧ result = .ofCount component found.length 0 told := by
  unfold reload at h
  obtain ⟨_, st₁, h₁, h⟩ := resultOf_bind_eq_ok h
  obtain ⟨_, st₂, h₂, h⟩ := resultOf_bind_eq_ok h
  obtain ⟨_, st₃, h₃, h⟩ := resultOf_bind_eq_ok h
  obtain ⟨⟨found, told⟩, st₄, h₄, h⟩ := resultOf_bind_eq_ok h
  obtain ⟨_, st₅, h₅, h⟩ := resultOf_bind_eq_ok h
  have hfirst := spares_clear apart apart.generated st tree
  rw [h₁] at hfirst
  have hsecond := spares_clear apart apart.custom st₁ (hfirst.tree tree)
  rw [h₂] at hsecond
  cases h₃
  cases h₅
  cases h
  exact ⟨cache.change ComputeCache.invalidateAll st₂, st₄, found, told, hfirst.trans hsecond, h₄,
    rfl, rfl, rfl⟩

end RuleSets

namespace Workspace.Calls

open Registry (Editors Edit Errand)

variable {ι κ : Type} [DecidableEq ι] [DecidableEq κ] {w : Workspace} {s : Calls ι κ} {c : ι}

/-- A workspace with another disk. -/
def setDisk (s : Calls ι κ) (disk : Disk) : Calls ι κ :=
  { s with editors := s.editors.setRegistry { s.editors.registry with disk } }

theorem Step.setDisk {disk : Disk} (unchanged : w.store.Unchanged s.editors.registry.disk disk) :
    Step w s (s.setDisk disk) :=
  .registry (.elsewhere unchanged) fun _ _ => rfl

/-- A call comes further with the rule-sets, an audit is written, and then come the others. -/
theorem reaches_of_next {x y : Rebuild} {disk₁ disk₂ : Disk} (step : Step w s (s.setRebuild c x))
    (unchanged : w.store.Unchanged s.editors.registry.disk disk₁)
    (others : Reaches w ((s.setRebuild c x).setDisk disk₁)
      ((((s.setRebuild c x).setDisk disk₁).setDisk disk₂).setRebuild c y)) :
    Reaches w s ((s.setDisk disk₂).setRebuild c y) := by
  have hdisk : Step w (s.setRebuild c x) _ := .setDisk unchanged
  refine .head step (.head hdisk ?_)
  simpa only [setDisk, setRebuild, Editors.setRegistry, Function.update_idem] using others

/-- The rule-sets that are left are compiled one after another. -/
theorem reaches_of_compileEach {rest : List (RuleSetType × Config.RuleSet)}
    {loaded found : List (RuleSetType × Artifact)} {errors told : List String}
    {st st' : RuleSetState} (apart : ∀ snapshot, (w.ruleSets snapshot).AreApart w.store)
    (tree : st.disk.IsTree) (disk : s.editors.registry.disk = st.disk)
    (compiling : s.rebuild c = .compiling rest loaded errors)
    (h : resultOf ((w.ruleSets s.snapshot).compileEach rest) st = (.ok (found, told), st')) :
    Reaches w s
      ((s.setDisk st'.disk).setRebuild c (.compiling [] (loaded ++ found) (errors ++ told))) := by
  induction rest generalizing s st loaded found errors told with
  | nil =>
      cases h
      rw [List.append_nil, List.append_nil, ← compiling, ← disk]
      show Reaches w s { s with rebuild := Function.update s.rebuild c (s.rebuild c) }
      rw [Function.update_eq_self]
  | cons first rest ih =>
      -- the disk is another one for the others, so the induction is for any workspace
      obtain ⟨t, setting⟩ := first
      obtain ⟨st₁, hunchanged, hends⟩ := RuleSets.compileEach_cons_eq_ok (apart _) tree h
      rw [← disk] at hunchanged
      rcases hends with ⟨a, found', hcompiled, rfl, hrest⟩ | ⟨f, told', hfailed, hown, rfl, hrest⟩
      · refine reaches_of_next (.compile compiling ⟨w.present, st, disk.symm, hcompiled⟩)
          hunchanged ?_
        rw [List.append_cons loaded (t, a) found']
        exact ih (s := (s.setRebuild c _).setDisk st₁.disk) (hunchanged.tree (disk ▸ tree)) rfl
          (Function.update_self ..) hrest
      · refine reaches_of_next (.skip compiling ⟨w.present, st, disk.symm, hfailed⟩ hown)
          hunchanged ?_
        rw [List.append_cons errors _ told']
        exact ih (s := (s.setRebuild c _).setDisk st₁.disk) (hunchanged.tree (disk ▸ tree)) rfl
          (Function.update_self ..) hrest

/-- Nobody compiles rule-sets. -/
def IsIdle (s : Calls ι κ) : Prop := ∀ c, (s.rebuild c).isCompiling = false

omit [DecidableEq ι] [DecidableEq κ] in
theorem IsIdle.elim {P : Prop} (idle : s.IsIdle) (h : (s.rebuild c).isCompiling = true) : P := by
  rw [idle c] at h
  cases h

omit [DecidableEq κ] in
theorem IsIdle.update (idle : s.IsIdle) {x : Rebuild} (h : x.isCompiling = false) (c' : ι) :
    (Function.update s.rebuild c x c').isCompiling = false := by
  rcases eq_or_ne c' c with rfl | hne
  · rw [Function.update_self, h]
  · rw [Function.update_of_ne hne, idle]

theorem IsIdle.reaches (idle : s.IsIdle) {v : Editors ι}
    (run : Editors.Reaches w.store s.editors v) : Reaches w s { s with editors := v } := by
  induction run with
  | refl => exact .refl
  | tail _ step ih => exact ih.tail (.registry step fun _ h => idle.elim h)

/-- Whoever holds the lock compiles all rule-sets, publishes them, and leaves. -/
theorem reaches_of_rebuild {errand : Errand} {wrote : Option Data.Fields}
    {outcome : Except Failure (Option ProfileChange)} {result : ReloadResult}
    {st st' : RuleSetState} (apart : ∀ snapshot, (w.ruleSets snapshot).AreApart w.store)
    (tree : st.disk.IsTree) (disk : s.editors.registry.disk = st.disk) (idle : s.IsIdle)
    (leaving : s.editors.stage c = .leaving errand wrote outcome)
    (asked : (s.rebuild c).MayBegin errand)
    (h : resultOf (w.ruleSets s.snapshot).reload st = (.ok result, st')) :
    ∃ s', Reaches w s s' ∧ s'.editors.registry = ⟨st'.disk, s.snapshot, false⟩ ∧
      s'.editors.stage c = .ended errand wrote outcome ∧ s'.editors.turns = s.editors.turns ∧
      s'.rebuild c = .ended (.ok result) ∧ s'.loaded = st'.loaded ∧ s'.demand = s.demand ∧
      s'.scene = s.forget.scene := by
  obtain ⟨st₁, st₂, found, told, hcleared, hcompiled, hdisk, hfound, rfl⟩ :=
    RuleSets.reload_eq_ok (apart s.snapshot) tree h
  have hclear : Step w s (s.setDisk st₁.disk) := .setDisk (disk ▸ hcleared)
  have hbegin : Step w (s.setDisk st₁.disk) _ := .begin leaving asked
  have hcompile : Reaches w _ _ := reaches_of_compileEach
    (s := (s.setDisk st₁.disk).forget.setRebuild c (.compiling w.config.ruleSets [] []))
    apart (hcleared.tree tree) rfl (Function.update_self ..) hcompiled
  have hpublish := hcompile.tail (.publish (Function.update_self ..))
  have hleave := hpublish.tail (.registry (.leave leaving) fun c' hc' => by
    simp only [setRebuild, setDisk, forget, Function.update_idem] at hc'
    rw [idle.update rfl] at hc'
    cases hc')
  refine ⟨_, .head hclear (.head hbegin hleave), ?_, Function.update_self .., rfl,
    Function.update_self .., hfound.symm, rfl, rfl⟩
  rw [hdisk]
  rfl

/-- Calls stand where a workspace stands. -/
structure Agrees (s : Calls ι κ) (st : WorkspaceState) : Prop where
  registry : s.editors.registry = registrySlot.get st
  loaded : s.loaded = st.ruleSets
  cache : s.scene.cache = st.ruleCache

omit [DecidableEq ι] in
theorem getLast?_written {v : Editors ι} {cs : List ι} {e : Edit × Data.Fields}
    (turns : v.turns = cs ++ [c]) (wrote : (v.stage c).wrote? = some e) :
    v.written.getLast? = some (c, e) := by
  unfold Editors.written
  rw [turns, List.filterMap_append, List.filterMap_cons, wrote]
  exact List.getLast?_concat ..

/-- What happens at the cache happens among the calls. -/
theorem reaches_of_scene {es : List (Event κ RuleKey Artifact)} {scene : Scene κ RuleKey Artifact}
    (run : Scene.Run RuleKey.told es s.scene scene)
    (permitted : ∀ e ∈ es, RuleSets.Callers.Permits (w.ruleSets {}) s.callers e) :
    Reaches w s { s with scene } := by
  generalize hscene : s.scene = first at run
  induction run generalizing s with
  | nil => rw [← hscene]
  | @cons e es _ next _ step run ih =>
      subst hscene
      have hstep : Step w s _ := .caller (.atCache (permitted e List.mem_cons_self) step) rfl
      refine .head hstep (ih (s := { s with scene := next }) (fun e' he' => ?_) rfl)
      have hpermits := permitted e' (List.mem_cons_of_mem e he')
      cases e' <;> exact hpermits

/-- Whoever finds nothing at the cache compiles, and replies what has come of it. -/
theorem reaches_of_compile {k : κ} {d : RuleSets.Demand} {now : Int} {job : Computation RuleKey}
    {cache : ComputeCache RuleKey Artifact} {a : Artifact} (demand : s.demand k = some d)
    (unmade : s.scene.call k = .unmade)
    (found : s.scene.cache.lookUp now (d.key (w.ruleSets {})) = (.absent job, cache))
    (ends : d.Ends (w.ruleSets {}) (.value a)) : ∃ s', Reaches w s s' ∧ s'.demand = s.demand ∧
      s'.scene.reply? RuleKey.told k = some (.value a) := by
  obtain ⟨scene, hfinish, -, htold, -⟩ := Scene.finish_run RuleKey.told (.value a) now
    (Scene.setCall_call_self { s.scene with cache } k (.owner job .running))
  refine ⟨_, reaches_of_scene (.cons (.owned unmade found) hfinish) ?_, rfl, ?_⟩
  · intro e he
    simp only [List.mem_cons, List.not_mem_nil, or_false] at he
    rcases he with rfl | rfl | rfl | rfl
    · exact ⟨d, demand, rfl⟩
    · exact ⟨d, demand, ends⟩
    · trivial
    · trivial
  · unfold Scene.reply?
    dsimp only
    rw [htold]
    rfl

/-- No profile is compiled ahead for a change of the global assertions. -/
theorem saveGlobals_eq_ok {as : Assertions} {change : ProfileChange} {store : ProfileStore}
    {st st' : RegistryState} (h : resultOf (Registry.saveGlobals store as) st = (.ok change, st')) :
    change = .other := by
  unfold Registry.saveGlobals at h
  rw [resultOf_holding] at h
  have hresult : (resultOf _ (Registry.lock.put true st)).1 = .ok change := congrArg Prod.fst h
  have hwork : resultOf _ (Registry.lock.put true st) = (.ok change, _) := Prod.ext hresult rfl
  obtain ⟨_, st₁, -, h⟩ := resultOf_bind_eq_ok hwork
  obtain ⟨_, st₂, -, h⟩ := resultOf_bind_eq_ok h
  cases h
  rfl

/-- What saving global assertions consists of. -/
theorem save_eq_ok {as : Assertions} {result : ReloadResult} {st st' : WorkspaceState}
    (h : resultOf (w.saveGlobals as) st = (.ok result, st')) :
    ∃ (reg : RegistryState) (begun ended : RuleSetState),
      resultOf ((Edit.saveGlobals as).run w.store) (registrySlot.get st) =
          (.ok (some .other), reg) ∧
      begun.disk = reg.disk ∧ begun.cache = st.ruleCache.invalidateAll ∧
      resultOf (w.ruleSets reg.snapshot).reload begun = (.ok result, ended) ∧
      registrySlot.get st' = ⟨ended.disk, reg.snapshot, false⟩ ∧ st'.ruleSets = ended.loaded ∧
      st'.ruleCache = ended.cache := by
  unfold Workspace.saveGlobals at h
  obtain ⟨change, st₁, hsave, h⟩ := resultOf_bind_eq_ok h
  obtain ⟨_, st₂, hfollow, h⟩ := resultOf_bind_eq_ok h
  rcases hedit : resultOf (Registry.saveGlobals w.store as) (registrySlot.get st) with ⟨r, reg⟩
  change ((resultOf (Registry.saveGlobals w.store as) (registrySlot.get st)).1,
    registrySlot.put (resultOf (Registry.saveGlobals w.store as) (registrySlot.get st)).2 st) = _
    at hsave
  rw [hedit] at hsave
  cases hsave
  obtain rfl := saveGlobals_eq_ok hedit
  cases hfollow
  rw [resultOf_holding] at h
  obtain ⟨hresult, hstate⟩ := Prod.ext_iff.mp h
  obtain rfl : _ = st' := hstate
  change (resultOf (w.ruleSets reg.snapshot).reload _).1 = _ at hresult
  refine ⟨reg, _, _, ?_, rfl, rfl, Prod.ext hresult rfl, rfl, rfl, rfl⟩
  show resultOf ((Registry.saveGlobals w.store as).map some) (registrySlot.get st) = _
  rw [resultOf_map, hedit]
  rfl

/-- The registry is edited, what was compiled is forgotten, and the lock is taken once more. -/
theorem reaches_of_follow {as : Assertions} {reg : RegistryState}
    (free : s.editors.registry.locked = false) (idle : s.IsIdle)
    (unmade : s.editors.stage c = .unmade) (unasked : s.rebuild c = .unasked)
    (h : resultOf ((Edit.saveGlobals as).run w.store) s.editors.registry =
      (.ok (some .other), reg)) :
    ∃ s' r entries, (resultOf w.store.loadRoot s.editors.registry.disk).1 = .ok r ∧
      (Edit.saveGlobals as).entries? r = some entries ∧ Reaches w s s' ∧
      s'.editors.registry = { reg with locked := true } ∧ s'.IsIdle ∧ s'.editors.stage c =
        .leaving (.edit (.saveGlobals as)) (some entries) (.ok (some .other)) ∧
      s'.editors.turns = s.editors.turns ++ [c] ∧ s'.rebuild c = .emptied ∧ s'.demand = s.demand ∧
      s'.scene = s.forget.scene := by
  have hfree := (Edit.ends_run w.store s.editors.registry (.saveGlobals as)).locked_eq_false free
  rw [h] at hfree
  obtain ⟨v, wrote, hrun, hreg, ⟨hstage, hturns, -⟩, hwrote⟩ : ∃ v wrote, Editors.Reaches w.store
      (s.editors.setStage c (.waiting (.saveGlobals as))) v ∧ _ ∧
        Editors.HasEnded _ v c (.ended _ wrote _) ∧ _ :=
    Editors.reaches_of_waiting (Function.update_self ..) free id
  rw [Editors.setStage_registry, h] at hreg hstage hwrote
  obtain ⟨r, entries, hload, hentries, rfl⟩ := hwrote .other rfl
  subst hreg
  have hended : v.stage c =
      .ended (.edit (.saveGlobals as)) (some entries) (.ok (some .other)) := by
    rw [hstage, Function.update_self]
  have hedited := idle.reaches (.head (.ask unmade id) hrun)
  have hfollow := hedited.tail (.follow hended unasked)
  have hreenter := hfollow.tail (.registry (.reenter hended hfree) fun c' h =>
    IsIdle.elim (fun c' => idle.update rfl c') h)
  exact ⟨_, r, entries, hload, hentries, hreenter, rfl, fun c' => idle.update rfl c',
    Function.update_self .., hturns, Function.update_self .., rfl, rfl⟩

/-- A save of global assertions that nobody disturbs is a run of one call. -/
theorem reaches_of_save {as : Assertions} {result : ReloadResult} {st st' : WorkspaceState}
    (apart : ∀ snapshot, (w.ruleSets snapshot).AreApart w.store) (tree : st.disk.IsTree)
    (free : st.desk.locked = false) (agrees : s.Agrees st)
    (unmade : s.editors.stage c = .unmade) (unasked : s.rebuild c = .unasked)
    (idle : s.IsIdle)
    (h : resultOf (w.saveGlobals as) st = (.ok result, st')) :
    ∃ s' r entries, (resultOf w.store.loadRoot st.disk).1 = .ok r ∧
      (Edit.saveGlobals as).entries? r = some entries ∧ Reaches w s s' ∧ s'.Agrees st' ∧
      s'.demand = s.demand ∧ s'.scene = s.forget.forget.scene ∧ s'.rebuild c = .ended (.ok result) ∧
      s'.editors.written.getLast? = some (c, .saveGlobals as, entries) := by
  obtain ⟨reg, begun, ended, hedit, hdisk, hbegun, hreload, hregistry, hloaded, hcache⟩ :=
    save_eq_ok h
  have hends := Edit.ends_run w.store (registrySlot.get st) (.saveGlobals as)
  rw [hedit] at hends
  rw [← agrees.registry] at hedit
  obtain ⟨s₁, r, entries, hload, hentries, hfollow, hreg, hidle, hleaving, hturns, hemptied,
      hdemand, hscene⟩ := reaches_of_follow (by rw [agrees.registry, ← free]; rfl) idle unmade unasked hedit
  have hsnapshot : s₁.snapshot = reg.snapshot := congrArg (·.snapshot) hreg
  rw [← hsnapshot] at hreload hregistry
  obtain ⟨s', hrebuild, hreg', hended, hturns', hrebuilt, hloaded', hdemand', hscene'⟩ :=
    reaches_of_rebuild apart (hdisk ▸ hends.isTree tree) (by rw [hreg, hdisk]) hidle hleaving
      hemptied hreload
  have hforgotten : s'.scene = s.forget.forget.scene := by
    rw [hscene']
    unfold forget
    rw [hscene]
    rfl
  rw [agrees.registry] at hload
  refine ⟨s', r, entries, hload, hentries, hfollow.trans hrebuild,
    ⟨hreg'.trans hregistry.symm, hloaded'.trans hloaded.symm, ?_⟩, hdemand'.trans hdemand,
    hforgotten, hrebuilt, getLast?_written (hturns'.trans hturns) ?_⟩
  · rw [hforgotten, hcache, RuleSets.reload_cache hreload, hbegun, ← agrees.cache]
    rfl
  · rw [hended]
    rfl

end Workspace.Calls

end Conformity
