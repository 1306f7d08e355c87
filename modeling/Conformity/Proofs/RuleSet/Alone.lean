import Conformity.Proofs.Cache.Alone
import Conformity.Proofs.RuleSet.Callers

/-!
# A rule-set asked for by itself

Work on rule-sets touches the cache only where it asks for a rule-set with further assertions and
where it reloads, and what is loaded only where it reloads. To ask is a run of one caller
(`RuleSets.custom_run`), and to reload empties the cache (`RuleSets.reload_cache`), so callers of the
program are callers as `Callers` has them.
-/

namespace Conformity.RuleSets

variable {ι : Type} {s : RuleSets}

/-! ## Work that leaves the cache alone -/

/-- A part of the state where neither the disk nor the engine's log lies. -/
structure IsAside {γ : Type} (slot : Slot RuleSetState γ) : Prop where
  disk : ∀ d st, slot.get (disk.put d st) = slot.get st
  log : ∀ l st, slot.get (log.put l st) = slot.get st

theorem isAside_cache : IsAside cache := ⟨fun _ _ => rfl, fun _ _ => rfl⟩

section Aside

variable {γ : Type} {slot : Slot RuleSetState γ} (aside : IsAside slot)
include aside

theorem keeps_onDisk {α : Type} {a : Disk.Action α} : Keeps slot (onDisk a) :=
  .lift aside.disk a

theorem keeps_withEngine {α : Type} {a : Artifact.Work α} : Keeps slot (withEngine a) :=
  fun st => aside.log _ st

omit aside in
theorem keeps_setting {t : RuleSetType} : Keeps slot (s.setting t) := by
  unfold setting
  split
  · exact .pure _
  · exact .throw _

theorem keeps_source {t : RuleSetType} : Keeps slot (s.source t) := by
  unfold source
  refine .bind keeps_setting fun c => .bind (keeps_onDisk aside) fun found => ?_
  split
  · exact .throw _
  · exact .bind (keeps_onDisk aside) fun place => .bind (keeps_onDisk aside) fun content => .pure _

theorem keeps_writeAudit {folder name : String} {content : Bytes} :
    Keeps slot (s.writeAudit folder name content) := by
  refine .tryCatch (.bind (keeps_onDisk aside) fun _ => .pure _) fun e => ?_
  split
  · exact .pure _
  · exact .throw _

theorem keeps_writeCustomAudit {t : RuleSetType} {profile : String} {injected : Bytes} {a : Artifact}
    {as : List Assertion} : Keeps slot (s.writeCustomAudit t profile injected a as) :=
  .bind (keeps_writeAudit aside) fun _ => keeps_writeAudit aside

omit aside in
theorem keeps_inject {source : RuleSource} {as : List Assertion} {profile : String} :
    Keeps slot (s.inject source as profile) := by
  unfold inject
  split
  · exact .pure _
  · exact .throw _
  · exact .throw _

theorem keeps_compile {t : RuleSetType} : Keeps slot (s.compile t) := by
  unfold compile
  refine .bind keeps_setting fun c => .bind (keeps_source aside) fun source => ?_
  split
  · exact keeps_withEngine aside
  · dsimp only
    split
    · exact keeps_withEngine aside
    · exact .bind keeps_inject fun injected => .bind (keeps_withEngine aside) fun a =>
        .bind (keeps_writeCustomAudit aside) fun _ => .pure a

theorem keeps_compileEach (configured : List (RuleSetType × Config.RuleSet)) :
    Keeps slot (s.compileEach configured) := by
  induction configured with
  | nil => exact .pure _
  | cons setting rest ih =>
      obtain ⟨t, c⟩ := setting
      unfold compileEach
      refine .bind (.tryCatch (.map (keeps_compile aside)) fun e => ?_) fun compiled => ?_
      · split
        · exact .pure _
        · exact .throw _
      · cases compiled with
        | ok a =>
            dsimp only
            split
            · exact .bind (keeps_writeAudit aside) fun _ => .bind ih fun _ => .pure _
            · exact .bind ih fun _ => .pure _
        | error e => exact .bind ih fun _ => .pure _

theorem keeps_compileCustom {t : RuleSetType} {as : List Assertion} {profile : String} :
    Keeps slot (s.compileCustom t as profile) := by
  unfold compileCustom
  refine .bind keeps_setting fun c => ?_
  split
  · exact .throw _
  · exact .bind (keeps_source aside) fun source => .bind keeps_inject fun injected =>
      .bind (keeps_withEngine aside) fun a => .bind (keeps_writeCustomAudit aside) fun _ => .pure a

end Aside

/-! ## The cache -/

/-- A reload that comes to its end has emptied the cache, and done nothing else to it. -/
theorem reload_cache {st st' : RuleSetState} {r : ReloadResult}
    (h : resultOf s.reload st = (.ok r, st')) : st'.cache = st.cache.invalidateAll := by
  unfold reload at h
  obtain ⟨_, st₁, h₁, h⟩ := resultOf_bind_eq_ok h
  obtain ⟨_, st₂, h₂, h⟩ := resultOf_bind_eq_ok h
  obtain ⟨_, st₃, h₃, h⟩ := resultOf_bind_eq_ok h
  obtain ⟨_, st₄, h₄, h⟩ := resultOf_bind_eq_ok h
  obtain ⟨_, st₅, h₅, h⟩ := resultOf_bind_eq_ok h
  have hclear₁ : st₁.cache = st.cache := (keeps_onDisk isAside_cache).get_eq h₁
  have hclear₂ : st₂.cache = st₁.cache := (keeps_onDisk isAside_cache).get_eq h₂
  have hcompile : st₄.cache = st₃.cache := (keeps_compileEach isAside_cache _).get_eq h₄
  -- compiling leaves the cache as the emptying left it
  cases h₃
  cases h₅
  cases h
  show st₄.cache = st.cache.invalidateAll
  rw [hcompile, ← hclear₁, ← hclear₂]
  rfl

variable [DecidableEq ι]

/-- To ask for a rule-set with further assertions while none is compiled for the same key is a run
of one caller, which replies what is given. -/
theorem custom_run {t : RuleSetType} {as : List Assertion} {profile : Option String}
    {st st' : RuleSetState} {r : Except Failure Artifact} {w : Callers ι} {c : ι}
    (idle : st.cache.pending.lookup (s.key t as profile) = none)
    (given : resultOf (s.custom t as profile) st = (r, st')) (cache : w.scene.cache = st.cache)
    (globals : w.globals = s.globals) (fresh : w.demand c = none)
    (unmade : w.scene.call c = .unmade) :
    ∃ es w' answer, Callers.Run s (.read c t as profile :: es) w w' ∧ w'.globals = w.globals ∧
      w'.scene.cache = st'.cache ∧ r = answer.mapError .computation ∧
      w'.scene.reply? RuleKey.told c = some (.ofAnswer answer) := by
  obtain ⟨es, scene, answer, run, hevents, hcache, hanswer, hreply⟩ :=
    ComputeCache.obtain_run (fun _ _ => rfl) (keeps_compileCustom isAside_cache) idle given cache unmade
  have hdemand : Function.update w.demand c (some ⟨t, as, profile, w.globals⟩) c =
      some ⟨t, as, profile, s.globals⟩ := by
    rw [Function.update_self, globals]
  refine ⟨es.map .atCache, _, answer, .cons (.read t as profile fresh) (.of_scene run ?_), rfl,
    hcache, hanswer, hreply⟩
  intro e he
  cases hevents e he with
  | ask => exact ⟨_, hdemand, rfl⟩
  | finish st => exact ⟨_, hdemand, Or.inr ⟨s.present, st, rfl⟩⟩
  | settle => trivial
  | tell => trivial

end Conformity.RuleSets
