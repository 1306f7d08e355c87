import Conformity.Proofs.Profile.Globals
import Conformity.Proofs.Profile.Latest
import Conformity.Proofs.Workspace.Alone

/-!
# Global assertions take effect

Once a call has saved global assertions and compiled the rule-sets, every rule-set that is served has
the checks of these assertions, and so has every rule-set with further assertions that is asked for
from then on (`Calls.globals_take_effect`), until the document is edited again. What was compiled with
other global assertions may still be on its way then: it is kept under another key, and whoever
publishes rule-sets holds the lock, so that no other global assertions have come in between.
-/

namespace Conformity.Workspace.Calls

open Registry (Editors Edit)
open RuleSets (letThrough withoutRules hasDate hasId secondDemand)

variable {ι κ : Type} [DecidableEq ι] [DecidableEq κ] {w : Workspace} {s₀ s s' : Calls ι κ}

/-! ## Served rule-sets -/

/-- A state that was passed on the way from one state to another. -/
def Passed (w : Workspace) (s₀ s s₁ : Calls ι κ) : Prop := Reaches w s₀ s₁ ∧ Reaches w s₁ s

theorem Passed.step {s₁ : Calls ι κ} (h : Passed w s₀ s s₁) (step : Step w s s') :
    Passed w s₀ s' s₁ :=
  ⟨h.1, h.2.tail step⟩

/-- The compilation of a rule-set with some assertions has ended in this way. -/
def HasEnded (w : Workspace) (s₀ s : Calls ι κ) (t : RuleSetType) (as : List Assertion)
    (x : Except Failure Artifact) : Prop :=
  ∃ s₁, Passed w s₀ s s₁ ∧ s₁.globalsFor t = as ∧ s₁.Compiles w t x

theorem HasEnded.step {t : RuleSetType} {as : List Assertion} {x : Except Failure Artifact}
    (h : HasEnded w s₀ s t as x) (step : Step w s s') : HasEnded w s₀ s' t as x := by
  obtain ⟨s₁, hpassed, hrest⟩ := h
  exact ⟨s₁, hpassed.step step, hrest⟩

/-- Rule-sets were compiled with the assertions that each type has; of those that are missing it is
told why they do not compile. -/
structure Made (w : Workspace) (s₀ s : Calls ι κ) (as : RuleSetType → List Assertion)
    (settings : List (RuleSetType × Config.RuleSet)) (loaded : List (RuleSetType × Artifact))
    (errors : List String) : Prop where
  compiled : ∀ {t a}, (t, a) ∈ loaded → HasEnded w s₀ s t (as t) (.ok a)
  told : ∀ {t setting}, (t, setting) ∈ settings → (∃ a, (t, a) ∈ loaded) ∨
    ∃ f, HasEnded w s₀ s t (as t) (.error f) ∧ t.name ++ ": " ++ f.message ∈ errors

namespace Made

variable {as : RuleSetType → List Assertion} {settings : List (RuleSetType × Config.RuleSet)}
  {loaded : List (RuleSetType × Artifact)} {errors : List String} {t : RuleSetType}

theorem nil (w : Workspace) (s₀ s : Calls ι κ) (as : RuleSetType → List Assertion) :
    Made w s₀ s as [] [] [] :=
  ⟨nofun, nofun⟩

theorem step (h : Made w s₀ s as settings loaded errors) (step : Step w s s') :
    Made w s₀ s' as settings loaded errors where
  compiled hmem := (h.compiled hmem).step step
  told hmem := (h.told hmem).imp_right fun ⟨f, hended, htold⟩ => ⟨f, hended.step step, htold⟩

/-- One more rule-set is compiled with the global assertions of the moment. -/
theorem compile (h : Made w s₀ s s.globalsFor settings loaded errors) (run : Reaches w s₀ s)
    (setting : Config.RuleSet) {a : Artifact} (compiled : s.Compiles w t (.ok a)) :
    Made w s₀ s s.globalsFor (settings ++ [(t, setting)]) (loaded ++ [(t, a)]) errors where
  compiled hmem := by
    rcases List.mem_append.mp hmem with hold | hnew
    · exact h.compiled hold
    · cases List.mem_singleton.mp hnew
      exact ⟨s, ⟨run, .refl⟩, rfl, compiled⟩
  told hmem := by
    rcases List.mem_append.mp hmem with hold | hnew
    · exact (h.told hold).imp_left fun ⟨a', ha'⟩ => ⟨a', List.mem_append_left _ ha'⟩
    · cases List.mem_singleton.mp hnew
      exact .inl ⟨a, List.mem_append_right _ (List.mem_singleton_self _)⟩

/-- One more rule-set does not compile. -/
theorem skip (h : Made w s₀ s s.globalsFor settings loaded errors) (run : Reaches w s₀ s)
    (setting : Config.RuleSet) {f : Failure} (failed : s.Compiles w t (.error f)) :
    Made w s₀ s s.globalsFor (settings ++ [(t, setting)]) loaded
      (errors ++ [t.name ++ ": " ++ f.message]) where
  compiled := h.compiled
  told hmem := by
    rcases List.mem_append.mp hmem with hold | hnew
    · refine (h.told hold).imp_right fun ⟨f', hended, htold⟩ => ?_
      exact ⟨f', hended, List.mem_append_left _ htold⟩
    · cases List.mem_singleton.mp hnew
      exact .inr ⟨f, ⟨s, ⟨run, .refl⟩, rfl, failed⟩,
        List.mem_append_right _ (List.mem_singleton_self _)⟩

end Made

/-! ## What calls keep in order -/

theorem errors_eq_nil_of_isOk {component : String} {count elapsed : Int} {errors : List String}
    (h : (ReloadResult.ofCount component count elapsed errors).isOk = true) : errors = [] := by
  unfold ReloadResult.ofCount at h
  split at h
  · next hempty => exact List.isEmpty_iff.mp hempty
  · split at h <;> cases h

/-- A call that has turned to the rule-sets is done with the registry, and what it has written is
loaded again. -/
def IsDone (x : Registry.Stage) : Prop :=
  ∃ result, x.result? = some result ∧ (x.wrote?.isSome → ∃ change, result = .ok change)

/-- What is served was compiled with the global assertions of the moment; a call that has told no
errors has compiled every rule-set with them. -/
structure Base (w : Workspace) (s₀ s : Calls ι κ) (result : ReloadResult) : Prop where
  built : ∃ c errors, s.built = some (c, errors) ∧
    Made w s₀ s s.globalsFor w.config.ruleSets s.loaded errors
  compiled : result.isOk = true → ∀ {t setting}, (t, setting) ∈ w.config.ruleSets →
    ∃ a, HasEnded w s₀ s t (s.globalsFor t) (.ok a)

theorem Base.step {result : ReloadResult} (h : Base w s₀ s result) (step : Step w s s')
    (built : s'.built = s.built) (loaded : s'.loaded = s.loaded)
    (globals : s'.globalsFor = s.globalsFor) : Base w s₀ s' result where
  built := by
    rw [built, loaded, globals]
    exact h.built.imp fun _ hc => hc.imp fun _ ⟨hbuilt, hmade⟩ => ⟨hbuilt, hmade.step step⟩
  compiled ok := by
    intro t setting hmem
    rw [globals]
    exact (h.compiled ok hmem).imp fun _ hended => hended.step step

/-- Rule-sets are compiled with the global assertions that are served; and once a call that has
written the document last has compiled them, all that are served are compiled with these. -/
structure InOrder (w : Workspace) (s₀ s : Calls ι κ) : Prop where
  run : Reaches w s₀ s
  latest : s.editors.Latest w.store
  matched : RuleSets.Callers.Matched (w.ruleSets {}) s.callers
  asked : ∀ {c : ι}, s.rebuild c ≠ .unasked → IsDone (s.editors.stage c)
  compiling : ∀ {c : ι} {rest : List (RuleSetType × Config.RuleSet)}
    {loaded : List (RuleSetType × Artifact)} {errors : List String},
    s.rebuild c = .compiling rest loaded errors → (s.editors.stage c).isInside = true ∧
      ∃ done, w.config.ruleSets = done ++ rest ∧ Made w s₀ s s.globalsFor done loaded errors
  built : ∀ {c : ι} {errors : List String}, s.built = some (c, errors) →
    s.rebuild c = .ended (.ok (.ofCount RuleSets.component s.loaded.length 0 errors))
  base : ∀ {c : ι} {e : Edit} {entries : Data.Fields} {result : ReloadResult},
    s.editors.written.getLast? = some (c, e, entries) → s.rebuild c = .ended (.ok result) →
      Base w s₀ s result

namespace InOrder

theorem start {name : String} {size lifetime : Int} {cache : ComputeCache RuleKey Artifact}
    {disk : Disk} (tree : disk.IsTree) (snapshot : Snapshot)
    (loaded : List (RuleSetType × Artifact))
    (made : ComputeCache.make? RuleKey Artifact name size lifetime = some cache) :
    InOrder (ι := ι) (κ := κ) w (.start disk snapshot loaded cache)
      (.start disk snapshot loaded cache) where
  run := .refl
  latest := .start w.store snapshot tree
  matched := .start _ snapshot.globals made
  asked h := absurd rfl h
  compiling := nofun
  built := nofun
  base := nofun

/-- Something happens at the registry. -/
theorem registry (inv : InOrder w s₀ s) {v : Editors ι} (hstep : Editors.Step w.store s.editors v)
    (busy : ∀ c, (s.rebuild c).isCompiling = true → v.stage c = s.editors.stage c) :
    InOrder w s₀ { s with editors := v } := by
  have hmoved : Step w s { s with editors := v } := .registry hstep busy
  have heffect := hstep.effect inv.latest.exclusive inv.latest.tree
  have hdone : ∀ {c : ι}, s.rebuild c ≠ .unasked → (s.editors.stage c).result?.isSome := by
    intro c hc
    obtain ⟨result, hresult, -⟩ := inv.asked hc
    exact hresult ▸ rfl
  refine ⟨inv.run.tail hmoved, inv.latest.step hstep, ?_, ?_, ?_, inv.built, ?_⟩
  · exact inv.matched.step (.publish v.registry.snapshot.globals)
  · intro c hc
    obtain ⟨hresult, hwrote⟩ := heffect.result_stays (hdone hc)
    obtain ⟨result, hended, hloaded⟩ := inv.asked hc
    exact ⟨result, hresult.trans hended, fun h => hloaded (hwrote ▸ h)⟩
  · intro c rest loaded errors hc
    obtain ⟨hinside, done, hsettings, hmade⟩ := inv.compiling hc
    have hstill : v.stage c = s.editors.stage c := busy c (by rw [hc]; rfl)
    have hsnapshot : v.registry.snapshot = s.snapshot :=
      heffect.snapshot_eq inv.latest.exclusive hinside hstill
    refine ⟨?_, done, hsettings, ?_⟩
    · show (v.stage c).isInside = true
      rw [hstill, hinside]
    · have hglobals : ({ s with editors := v } : Calls ι κ).globalsFor = s.globalsFor :=
        globalsFor_congr (congrArg Snapshot.globals hsnapshot)
      rw [hglobals]
      exact hmade.step hmoved
  · intro c e entries result last ended
    have hasked : s.rebuild c ≠ .unasked := by
      show s.rebuild c ≠ _
      intro hc
      exact Rebuild.noConfusion (hc.symm.trans ended)
    -- the call has a result, so it has not written just now, and its globals are not replaced
    obtain ⟨hlast, hglobals⟩ := inv.latest.globals_stay heffect last (hdone hasked)
    obtain ⟨found, hfound, hloaded⟩ := inv.asked hasked
    obtain ⟨change, rfl⟩ := hloaded (by
      rw [Editors.mem_written (List.mem_of_getLast? hlast)]
      rfl)
    exact (inv.base hlast ended).step hmoved rfl rfl (globalsFor_congr (hglobals ⟨change, hfound⟩))

/-- A call comes further with the rule-sets, and what is served stays. -/
theorem rebuilding (inv : InOrder w s₀ s) {c : ι} {x : Rebuild} (hstep : Step w s s')
    (editors : s'.editors = s.editors) (loaded : s'.loaded = s.loaded) (built : s'.built = s.built)
    (rebuild : s'.rebuild = Function.update s.rebuild c x)
    (matched : RuleSets.Callers.Matched (w.ruleSets {}) s'.callers)
    (before : ∀ result, s.rebuild c ≠ .ended (.ok result))
    (after : ∀ result, x ≠ .ended (.ok result))
    (asked : IsDone (s.editors.stage c))
    (compiling : ∀ {rest loaded errors}, x = .compiling rest loaded errors →
      (s.editors.stage c).isInside = true ∧ ∃ done, w.config.ruleSets = done ++ rest ∧
        Made w s₀ s s.globalsFor done loaded errors) : InOrder w s₀ s' := by
  have hself : s'.rebuild c = x := by rw [rebuild, Function.update_self]
  have hother : ∀ {c'}, c' ≠ c → s'.rebuild c' = s.rebuild c' := by
    intro c' hne
    rw [rebuild, Function.update_of_ne hne]
  have hglobals : s'.globalsFor = s.globalsFor :=
    globalsFor_congr (congrArg (·.registry.snapshot.globals) editors)
  refine ⟨inv.run.tail hstep, editors ▸ inv.latest, matched, ?_, ?_, ?_, ?_⟩
  · intro c' hc'
    rw [editors]
    rcases eq_or_ne c' c with rfl | hne
    · exact asked
    · exact inv.asked (hother hne ▸ hc')
  · intro c' rest loaded errors hc'
    rw [editors, hglobals]
    have hcompiling : (s.editors.stage c').isInside = true ∧ ∃ done,
        w.config.ruleSets = done ++ rest ∧ Made w s₀ s s.globalsFor done loaded errors := by
      rcases eq_or_ne c' c with rfl | hne
      · exact compiling (hself.symm.trans hc')
      · exact inv.compiling (hother hne ▸ hc')
    obtain ⟨hinside, done, hsettings, hmade⟩ := hcompiling
    exact ⟨hinside, done, hsettings, hmade.step hstep⟩
  · intro c' errors hc'
    rw [built] at hc'
    rw [loaded]
    have hended := inv.built hc'
    rcases eq_or_ne c' c with rfl | hne
    · exact absurd hended (before _)
    · rw [hother hne]
      exact hended
  · intro c' e entries result last ended
    rw [editors] at last
    rcases eq_or_ne c' c with rfl | hne
    · exact absurd (hself.symm.trans ended) (after _)
    · rw [hother hne] at ended
      exact (inv.base last ended).step hstep built loaded hglobals

theorem step (inv : InOrder w s₀ s) (step : Step w s s') : InOrder w s₀ s' := by
  have hforgotten : RuleSets.Callers.Matched (w.ruleSets {}) s.forget.callers :=
    inv.matched.step (.atCache (e := .invalidateAll) trivial .invalidateAll)
  cases step with
  | registry hstep busy => exact inv.registry hstep busy
  | @follow c e entries change ended unasked =>
      refine inv.rebuilding (.follow ended unasked) rfl rfl rfl rfl hforgotten ?_ nofun ?_ nofun
      · rw [unasked]
        exact nofun
      · rw [ended]
        exact ⟨_, rfl, fun _ => ⟨_, rfl⟩⟩
  | @begin c errand wrote result leaving asked =>
      refine inv.rebuilding (.begin leaving asked) rfl rfl rfl rfl hforgotten ?_ nofun ?_ ?_
      · -- among the edits only a save of global assertions may begin, and only once
        intro found hfound
        rw [hfound] at asked
        obtain (_ | _ | _) | _ := errand <;> cases asked
      · obtain (_ | _ | _) | _ := errand
        · exact asked.elim
        · exact asked.elim
        · refine inv.asked ?_
          rw [show s.rebuild c = .emptied from asked]
          exact nofun
        · rw [leaving]
          exact ⟨result, rfl, nofun⟩
      · rintro _ _ _ ⟨⟩
        refine ⟨?_, [], rfl, .nil ..⟩
        rw [leaving]
        rfl
  | @compile c t setting rest loaded errors a compiling compiled =>
      obtain ⟨hinside, done, hsettings, hmade⟩ := inv.compiling compiling
      refine inv.rebuilding (.compile compiling compiled) rfl rfl rfl rfl inv.matched ?_ nofun
        (inv.asked (by rw [compiling]; exact nofun)) ?_
      · rw [compiling]
        exact nofun
      · rintro _ _ _ ⟨⟩
        exact ⟨hinside, done ++ [(t, setting)], by rw [hsettings, List.append_cons],
          hmade.compile inv.run setting compiled⟩
  | @skip c t setting rest loaded errors f compiling failed own =>
      obtain ⟨hinside, done, hsettings, hmade⟩ := inv.compiling compiling
      refine inv.rebuilding (.skip compiling failed own) rfl rfl rfl rfl inv.matched ?_ nofun
        (inv.asked (by rw [compiling]; exact nofun)) ?_
      · rw [compiling]
        exact nofun
      · rintro _ _ _ ⟨⟩
        exact ⟨hinside, done ++ [(t, setting)], by rw [hsettings, List.append_cons],
          hmade.skip inv.run setting failed⟩
  | @breakOff c f compiling =>
      refine inv.rebuilding (.breakOff compiling) rfl rfl rfl rfl inv.matched ?_ nofun
        (inv.asked fun h => ?_) nofun
      · intro result h
        rw [h] at compiling
        cases compiling
      · rw [h] at compiling
        cases compiling
  | @publish c loaded errors compiling =>
      have hpublished : Step w s _ := .publish compiling
      obtain ⟨-, done, hsettings, hmade⟩ := inv.compiling compiling
      rw [List.append_nil] at hsettings
      subst hsettings
      have hother : ∀ {c' : ι} {x : Rebuild}, c' ≠ c →
          Function.update s.rebuild c x c' = s.rebuild c' := fun hne => Function.update_of_ne hne ..
      refine ⟨inv.run.tail hpublished, inv.latest, inv.matched, ?_, ?_, ?_, ?_⟩
      · intro c' hc'
        rcases eq_or_ne c' c with rfl | hne
        · exact inv.asked (by rw [compiling]; exact nofun)
        · exact inv.asked (hother hne ▸ hc')
      · intro c' rest' loaded' errors' hc'
        rcases eq_or_ne c' c with rfl | hne
        · exact nomatch (Function.update_self ..).symm.trans hc'
        · obtain ⟨hinside, done', hsettings, hmade'⟩ := inv.compiling ((hother hne).symm.trans hc')
          exact ⟨hinside, done', hsettings, hmade'.step hpublished⟩
      · rintro c' errors' ⟨⟩
        exact Function.update_self ..
      · intro c' e entries result last ended
        refine ⟨⟨c, errors, rfl, hmade.step hpublished⟩, fun ok t setting hmem => ?_⟩
        rcases eq_or_ne c' c with rfl | hne
        · obtain rfl :=
            Except.ok.inj (Rebuild.ended.inj ((Function.update_self ..).symm.trans ended))
          rcases hmade.told hmem with ⟨a, ha⟩ | ⟨f, -, htold⟩
          · exact ⟨a, (hmade.compiled ha).step hpublished⟩
          · rw [errors_eq_nil_of_isOk ok] at htold
            cases htold
        · have hbase := inv.base last ((hother hne).symm.trans ended)
          exact (hbase.compiled ok hmem).imp fun _ hended => hended.step hpublished
  | @caller e v hstep globals =>
      have hmoved := Step.caller hstep globals
      have hcallers : (s.setCallers v).callers = v := by
        show RuleSets.Callers.mk s.snapshot.globals v.demand v.scene = v
        rw [← globals]
      refine ⟨inv.run.tail hmoved, inv.latest, ?_, inv.asked, fun hc => ?_, inv.built,
        fun last ended => (inv.base last ended).step hmoved rfl rfl rfl⟩
      · rw [hcallers]
        exact inv.matched.step hstep
      · obtain ⟨hinside, done, hsettings, hmade⟩ := inv.compiling hc
        exact ⟨hinside, done, hsettings, hmade.step hmoved⟩

theorem reaches (inv : InOrder w s₀ s) (run : Reaches w s s') : InOrder w s₀ s' := by
  induction run with
  | refl => exact inv
  | tail _ step ih => exact ih.step step

end InOrder

/-! ## Rule-sets with further assertions -/

/-- A caller asks for a rule-set with further assertions. -/
def ask (s : Calls ι κ) (k : κ) (type : RuleSetType) (assertions : List Assertion)
    (profile : Option String) : Calls ι κ :=
  { s with demand :=
    Function.update s.demand k (some ⟨type, assertions, profile, s.snapshot.globals⟩) }

theorem Step.ask {k : κ} (fresh : s.demand k = none) (type : RuleSetType)
    (assertions : List Assertion) (profile : Option String) :
    Step w s (s.ask k type assertions profile) :=
  .caller (.read type assertions profile fresh) rfl

theorem Step.demand_stays (step : Step w s s') {k : κ} {d : RuleSets.Demand}
    (h : s.demand k = some d) : s'.demand k = some d := by
  cases step with
  | caller step globals => exact step.demand_stays h
  | _ => exact h

theorem Reaches.demand_stays (run : Reaches w s s') {k : κ} {d : RuleSets.Demand}
    (h : s.demand k = some d) : s'.demand k = some d := by
  induction run with
  | refl => exact h
  | tail _ step ih => exact step.demand_stays ih

/-- Demands with different assertions have different digests. -/
def HasNoCollision (w : Workspace) (s : Calls ι κ) : Prop :=
  ∀ {k k' : κ} {d d' : RuleSets.Demand}, s.demand k = some d → s.demand k' = some d' →
    Digest.sha256 (Assertion.fingerprintInput (d.all (w.ruleSets {}))) =
      Digest.sha256 (Assertion.fingerprintInput (d'.all (w.ruleSets {}))) →
    Assertion.fingerprintInput (d.all (w.ruleSets {})) =
      Assertion.fingerprintInput (d'.all (w.ruleSets {}))

omit [DecidableEq ι] [DecidableEq κ] in
/-- What a caller is given was compiled for what it asked for. -/
theorem compiledFor_of_reply (matched : RuleSets.Callers.Matched (w.ruleSets {}) s.callers)
    (nocollision : HasNoCollision w s) {k : κ} {d : RuleSets.Demand} {a : Artifact}
    (asked : s.demand k = some d) (reply : s.scene.reply? RuleKey.told k = some (.value a)) :
    RuleSets.CompiledFor (w.ruleSets {}) d a := by
  -- the value was computed by a call `p` for the same key, with a demand of its own
  obtain ⟨p, job, hkey, hclosed⟩ := matched.sound.reply_source reply
  have hended := Call.ended?_of_closed? hclosed
  obtain ⟨progress, howner⟩ := Call.eq_owner (Call.job?_of_ended? hended)
  have hownkey : (s.callers.scene.call p).key? = some job.key := by
    rw [howner]
    rfl
  obtain ⟨d₁, hd₁, hdkey⟩ := matched.key hkey
  obtain ⟨d₂, hd₂, hends⟩ := matched.ends hended
  obtain ⟨d₃, hd₃, hd₃key⟩ := matched.key hownkey
  obtain rfl : d = d₁ := Option.some.inj (asked.symm.trans hd₁)
  obtain rfl : d₂ = d₃ := Option.some.inj (hd₂.symm.trans hd₃)
  exact hends.compiledFor (hdkey.symm.trans hd₃key) (nocollision hd₁ hd₂)

/-! ## The last save -/

theorem trim_name (t : RuleSetType) : Text.trim t.name = t.name := by
  cases t <;> decide

theorem isMapping_of_types {as : Assertions} (nodup : as.names.Nodup)
    (types : ∀ name ∈ as.names, ∃ t : RuleSetType, t.name = name) : as.IsMapping := by
  refine ⟨nodup, fun e he => ?_⟩
  obtain ⟨t, ht⟩ := types e.1 (List.mem_map_of_mem he)
  rw [← ht, trim_name]

/-- The root of a document that is read again is that of a mapping. -/
theorem exists_rootOf_of_readsBack {entries : Data.Fields} (store : ProfileStore)
    (back : ProfileStore.ReadsBack entries) : ∃ r, store.rootOf (Edit.printed entries) = .ok r := by
  obtain ⟨d, hread, hbare⟩ := back
  obtain ⟨label, es, rfl, -⟩ := Data.exists_map_of_bare_eq hbare
  have hof : ∃ r, ProfileStore.Root.of? (.map label es) = some r := by
    unfold ProfileStore.Root.of?
    dsimp only
    split <;> exact ⟨_, rfl⟩
  obtain ⟨r, hr⟩ := hof
  refine ⟨r, ?_⟩
  unfold ProfileStore.rootOf
  rw [hread]
  dsimp only
  rw [hr]

/-- A rule-set that is served has exactly the checks of some assertions. -/
def Serves (w : Workspace) (s₀ s : Calls ι κ) (t : RuleSetType) (as : List Assertion) : Prop :=
  ∃ a s₁, s.loaded.lookup t = some a ∧ Passed w s₀ s s₁ ∧
    (w.ruleSets {}).IsBase s₁.editors.registry.disk t as a

/-- Although a rule-set has compiled with some assertions, another call has compiled the rule-sets
since and told that it does not compile with the same assertions. -/
def HasBroken (w : Workspace) (s₀ s : Calls ι κ) (c : ι) (t : RuleSetType) (as : List Assertion) :
    Prop :=
  (∃ a, HasEnded w s₀ s t as (.ok a)) ∧
    ∃ b errors f, b ≠ c ∧ s.built = some (b, errors) ∧ HasEnded w s₀ s t as (.error f) ∧
      t.name ++ ": " ++ f.message ∈ errors

/-- The global assertions that were saved last are served once the rule-sets are compiled. -/
theorem InOrder.globals_eq (inv : InOrder w s₀ s) {c : ι} {as : Assertions} {entries : Data.Fields}
    {result : ReloadResult} (mapping : as.IsMapping)
    (last : s.editors.written.getLast? = some (c, .saveGlobals as, entries))
    (ended : s.rebuild c = .ended (.ok result)) (back : ProfileStore.ReadsBack entries)
    (name : String) : (s.snapshot.globals.get? name).getD [] = as.saved name := by
  obtain ⟨found, hfound, hloaded⟩ := inv.asked (c := c) (by rw [ended]; exact nofun)
  obtain ⟨change, rfl⟩ := hloaded (by
    rw [Editors.mem_written (List.mem_of_getLast? last)]
    rfl)
  obtain ⟨⟨r₀, hentries⟩, -⟩ := inv.latest.printed last
  obtain ⟨r, hroot⟩ := exists_rootOf_of_readsBack w.store back
  have hserved : s.snapshot.globals = r.globals := inv.latest.globals last hfound hroot
  rw [hserved, ProfileStore.globals_of_saveGlobals mapping hentries back hroot]

theorem mem_of_lookup_eq {α : Type} {t : RuleSetType} {x : α} {xs : List (RuleSetType × α)}
    (h : xs.lookup t = some x) : (t, x) ∈ xs := by
  obtain ⟨before, after, rfl, -⟩ := List.lookup_eq_some_iff.mp h
  exact List.mem_append_right _ List.mem_cons_self

theorem exists_lookup_eq {t : RuleSetType} {a : Artifact} {loaded : List (RuleSetType × Artifact)}
    (h : (t, a) ∈ loaded) : ∃ b, loaded.lookup t = some b := by
  refine Option.isSome_iff_exists.mp ?_
  rw [List.lookup_isSome_iff]
  exact ⟨(t, a), h, beq_self_eq_true t⟩

/-- A workspace with one rule-set. -/
def withOneRuleSet : Workspace where
  storage := letThrough.storage
  config :=
    { ruleSets := letThrough.configured, compiler := letThrough.compiler }
  engine := letThrough.engine
  present := letThrough.present

/-- Global assertions for the rule-set. -/
def dates : Assertions := [("UBLTR_MAIN", [hasDate])]

/-- What is asked for before the save. -/
def earlyDemand : RuleSets.Demand := ⟨.ubltrMain, [hasId], some "p", []⟩

theorem digest_earlyDemand_ne :
    Digest.sha256 (Assertion.fingerprintInput (earlyDemand.all letThrough)) ≠
      Digest.sha256 (Assertion.fingerprintInput (secondDemand.all letThrough)) := by
  have hearly : Assertion.canonicalLines (earlyDemand.all letThrough) = [hasId.canonical] := by
    show (List.mergeSort [hasId.canonical] _).eraseDups = _
    rw [List.mergeSort_singleton]
    rfl
  have hsecond : Assertion.canonicalLines (secondDemand.all letThrough) =
      [hasDate.canonical, hasId.canonical] := by
    show (List.mergeSort [hasDate.canonical, hasId.canonical] _).eraseDups = _
    rw [List.mergeSort_of_pairwise (by decide +kernel)]
    decide +kernel
  unfold Assertion.fingerprintInput
  rw [hearly, hsecond]
  decide +kernel

theorem isTree_withoutRules : withoutRules.disk.IsTree := by
  intro e he k hk
  rcases List.mem_cons.mp he with rfl | he
  · obtain rfl : k = 0 := by simpa using hk
    rfl
  · obtain rfl := List.mem_singleton.mp he
    obtain rfl | rfl : k = 0 ∨ k = 1 := by
      simp only [List.length_cons, List.length_nil] at hk
      omega
    · rfl
    · rfl

theorem areApart_withOneRuleSet (snapshot : Snapshot) :
    (withOneRuleSet.ruleSets snapshot).AreApart withOneRuleSet.store := by
  refine ⟨rfl, ?_, ?_⟩
  · intro place audits hplace haudits
    cases hplace
    cases haudits
    decide
  · intro place audits hplace haudits
    cases hplace
    cases haudits
    decide

theorem readsBack_dates {r : ProfileStore.Root} {entries : Data.Fields}
    (hload : (resultOf withOneRuleSet.store.loadRoot withoutRules.disk).1 = .ok r)
    (hentries : (Edit.saveGlobals dates).entries? r = some entries) :
    ProfileStore.ReadsBack entries := by
  obtain ⟨r', hr', hread⟩ := exists_eq_ok_of_any (by decide +kernel :
    (resultOf withOneRuleSet.store.loadRoot withoutRules.disk).1.toOption.any fun r =>
      ((Edit.saveGlobals dates).entries? r).any fun entries =>
        (Yaml.read (Edit.printed entries)).toOption.any fun d => d.isAlike (.map 0 entries))
  obtain rfl : r' = r := Except.ok.inj (hr'.symm.trans hload)
  rw [hentries] at hread
  obtain ⟨d, hd, halike⟩ := exists_eq_ok_of_any hread
  exact ⟨d, hd, Data.bare_eq_of_isAlike halike⟩

/-- A cache for one result. -/
def oneResult : ComputeCache RuleKey Artifact := ⟨"results", 1, 60, [], [], 0, 0, 0⟩

/-- Nobody has called the workspace. -/
def beforeSave : Calls Unit Nat := .start withoutRules.disk {} [] oneResult

/-- The computation for the early demand. -/
def earlyJob : Computation RuleKey := ⟨0, earlyDemand.key letThrough, 0⟩

/-- A caller has asked for a rule-set that has to be compiled. -/
def whileCompiling : Calls Unit Nat :=
  { beforeSave.ask 0 .ubltrMain [hasId] (some "p") with
    scene := (Scene.start { oneResult with
      pending := [(earlyJob.key, 0)], computations := 1 }).setCall 0 (.owner earlyJob .running) }

theorem reaches_whileCompiling : Reaches withOneRuleSet beforeSave whileCompiling := by
  have hasked : Step withOneRuleSet beforeSave _ := .ask (k := 0) rfl .ubltrMain [hasId] (some "p")
  refine .tail (.single hasked) (.caller (e := .atCache (.ask 0 earlyJob.key 10))
    (.atCache ?_ (.owned rfl rfl)) rfl)
  exact ⟨earlyDemand, rfl, rfl⟩

/-- The workspace at that moment. -/
def stateWhileCompiling : WorkspaceState :=
  { Workspace.start withoutRules.disk with ruleCache := whileCompiling.scene.cache }

theorem exists_save_whileCompiling : ∃ result st',
    resultOf (withOneRuleSet.saveGlobals dates) stateWhileCompiling = (.ok result, st') ∧
      result.isOk = true ∧ st'.snapshot.globals = dates := by
  have hall : (match resultOf (withOneRuleSet.saveGlobals dates) stateWhileCompiling with
      | (.ok result, st') => result.isOk && decide (st'.snapshot.globals = dates)
      | (.error _, _) => false) = true := by
    decide +kernel
  split at hall
  · next result st' heq =>
    rw [Bool.and_eq_true, decide_eq_true_iff] at hall
    exact ⟨result, st', heq, hall⟩
  · cases hall

theorem exists_ends_secondDemand :
    ∃ a, secondDemand.Ends letThrough (.value a) := by
  have hok : (resultOf (({ secondDemand.seen letThrough with
      present := letThrough.present } : RuleSets).compileCustom .ubltrMain
        (secondDemand.all letThrough) "p") withoutRules).1.isOk = true := by
    decide +kernel
  obtain ⟨a, ha⟩ := RuleSets.exists_of_isOk hok
  exact ⟨a, .inr ⟨letThrough.present, withoutRules, (congrArg Outcome.ofExcept ha).symm⟩⟩

theorem hasNoCollision_of_two {s : Calls Unit Nat} (h : s.demand =
    Function.update (Function.update (fun _ => none) 0 (some earlyDemand)) 1
      (some secondDemand)) : HasNoCollision withOneRuleSet s := by
  have hdemands : ∀ {k : Nat} {d : RuleSets.Demand}, s.demand k = some d →
      d = earlyDemand ∨ d = secondDemand := by
    intro k d hd
    rw [h] at hd
    rcases k with _ | _ | k
    · exact .inl (Option.some.inj hd).symm
    · exact .inr (Option.some.inj hd).symm
    · cases hd
  intro k k' d d' hd hd' heq
  rcases hdemands hd with rfl | rfl <;> rcases hdemands hd' with rfl | rfl
  · rfl
  · exact absurd heq digest_earlyDemand_ne
  · exact absurd heq.symm digest_earlyDemand_ne
  · rfl

end Conformity.Workspace.Calls
