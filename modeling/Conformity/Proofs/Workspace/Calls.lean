import Conformity.Proofs.Profile.Exclusion
import Conformity.Proofs.RuleSet.Built
import Conformity.Workspace.Basic

/-!
# Calls of a workspace

Any number of calls edit the profiles document or reload everything while others ask for rule-sets with
further assertions. Whoever has replaced the global assertions forgets what was compiled, takes the lock
once more, and compiles the rule-sets anew, one after another, with the global assertions of the moment;
a reload of everything does so after it has reloaded the registry. The steps of the registry are those
of `Registry.Editors`, and what happens at the cache is what happens there among `RuleSets.Callers`.
-/

namespace Conformity.Workspace

open Registry (Editors Edit Errand)

/-- How far a call has come with the rule-sets. -/
inductive Rebuild where
  | unasked
  /-- What was compiled is forgotten. -/
  | emptied
  /-- What is left to be compiled, what is compiled, and what went wrong. -/
  | compiling (rest : List (RuleSetType × Config.RuleSet)) (loaded : List (RuleSetType × Artifact))
    (errors : List String)
  | ended (result : Except Failure ReloadResult)

/-- Does a call compile rule-sets? -/
def Rebuild.isCompiling : Rebuild → Bool
  | compiling .. => true
  | _ => false

/-- May a call that holds the lock begin to compile rule-sets? -/
def Rebuild.MayBegin (r : Rebuild) : Errand → Prop
  | .edit (.saveGlobals _) => r = .emptied
  | .edit _ => False
  | .reload => r = .unasked

/-- A workspace among its callers. Calls of type `ι` edit and reload, calls of type `κ` ask for
rule-sets with further assertions. -/
structure Calls (ι κ : Type) where
  editors : Editors ι
  rebuild : ι → Rebuild
  /-- The rule-sets that are served. -/
  loaded : List (RuleSetType × Artifact)
  /-- Who has compiled them, and what went wrong. -/
  built : Option (ι × List String)
  demand : κ → Option RuleSets.Demand
  scene : Scene κ RuleKey Artifact

namespace Calls

variable {ι κ : Type}

/-- A workspace that nobody has called. -/
def start (disk : Disk) (snapshot : Snapshot) (loaded : List (RuleSetType × Artifact))
    (cache : ComputeCache RuleKey Artifact) : Calls ι κ :=
  ⟨.start disk snapshot, fun _ => .unasked, loaded, none, fun _ => none, .start cache⟩

/-- The snapshot of the moment. -/
def snapshot (s : Calls ι κ) : Snapshot := s.editors.registry.snapshot

/-- The global assertions for a type at the moment. -/
def globalsFor (s : Calls ι κ) (t : RuleSetType) : List Assertion :=
  (s.snapshot.globals.get? t.name).getD []

/-- Those who ask for rule-sets with further assertions. -/
def callers (s : Calls ι κ) : RuleSets.Callers κ := ⟨s.snapshot.globals, s.demand, s.scene⟩

/-- A workspace whose callers have gone on. -/
def setCallers (s : Calls ι κ) (v : RuleSets.Callers κ) : Calls ι κ :=
  { s with demand := v.demand, scene := v.scene }

/-- A workspace whose kept rule-sets are forgotten. -/
def forget (s : Calls ι κ) : Calls ι κ :=
  { s with scene := { s.scene with cache := s.scene.cache.invalidateAll } }

/-- The compilation of a rule-set may end in this way, whatever the clocks show. -/
def Compiles (w : Workspace) (s : Calls ι κ) (t : RuleSetType) (x : Except Failure Artifact) :
    Prop :=
  ∃ (present : Present) (st : RuleSetState), st.disk = s.editors.registry.disk ∧
    (resultOf (({ w.ruleSets s.snapshot with present } : RuleSets).compile t) st).1 = x

variable {w : Workspace} {s s' : Calls ι κ}

theorem globalsFor_congr (h : s'.snapshot.globals = s.snapshot.globals) :
    s'.globalsFor = s.globalsFor := by
  unfold globalsFor
  rw [h]

/-- What compiles from a source has exactly the checks of the global assertions of the moment. -/
theorem Compiles.isBase {t : RuleSetType} {a : Artifact} (h : s.Compiles w t (.ok a))
    (source : (w.ruleSets {}).IsSource t) :
    (w.ruleSets {}).IsBase s.editors.registry.disk t (s.globalsFor t) a := by
  obtain ⟨present, st, hdisk, hcompile⟩ := h
  rw [← hdisk]
  exact RuleSets.isBase_of_compile
    (s := { w.ruleSets s.snapshot with present }) source (Prod.ext hcompile rfl)

variable [DecidableEq ι] [DecidableEq κ]

/-- A workspace in which a call has come further with the rule-sets. -/
def setRebuild (s : Calls ι κ) (c : ι) (x : Rebuild) : Calls ι κ :=
  { s with rebuild := Function.update s.rebuild c x }

/-- One thing that happens at once. -/
inductive Step (w : Workspace) : Calls ι κ → Calls ι κ → Prop
  /-- Something happens at the registry. A call that compiles does nothing else. -/
  | registry {s : Calls ι κ} {v : Editors ι} (step : Editors.Step w.store s.editors v)
      (busy : ∀ c, (s.rebuild c).isCompiling = true → v.stage c = s.editors.stage c) :
      Step w s { s with editors := v }
  /-- An edit is followed: what was compiled is forgotten. -/
  | follow {s : Calls ι κ} {c : ι} {e : Edit} {entries : Data.Fields} {change : ProfileChange}
      (ended : s.editors.stage c = .ended (.edit e) (some entries) (.ok (some change)))
      (unasked : s.rebuild c = .unasked) : Step w s (s.forget.setRebuild c .emptied)
  /-- A call that holds the lock begins to compile. -/
  | begin {s : Calls ι κ} {c : ι} {errand : Errand} {wrote : Option Data.Fields}
      {result : Except Failure (Option ProfileChange)}
      (leaving : s.editors.stage c = .leaving errand wrote result)
      (asked : (s.rebuild c).MayBegin errand) :
      Step w s (s.forget.setRebuild c (.compiling w.config.ruleSets [] []))
  | compile {s : Calls ι κ} {c : ι} {t : RuleSetType} {setting : Config.RuleSet}
      {rest : List (RuleSetType × Config.RuleSet)} {loaded : List (RuleSetType × Artifact)}
      {errors : List String} {a : Artifact}
      (compiling : s.rebuild c = .compiling ((t, setting) :: rest) loaded errors)
      (compiled : s.Compiles w t (.ok a)) :
      Step w s (s.setRebuild c (.compiling rest (loaded ++ [(t, a)]) errors))
  /-- A rule-set does not compile, which is told. -/
  | skip {s : Calls ι κ} {c : ι} {t : RuleSetType} {setting : Config.RuleSet}
      {rest : List (RuleSetType × Config.RuleSet)} {loaded : List (RuleSetType × Artifact)}
      {errors : List String} {f : Failure}
      (compiling : s.rebuild c = .compiling ((t, setting) :: rest) loaded errors)
      (failed : s.Compiles w t (.error f)) (own : f.isOwn = true) :
      Step w s (s.setRebuild c (.compiling rest loaded (errors ++ [t.name ++ ": " ++ f.message])))
  /-- Compiling breaks off, and nothing is published. -/
  | breakOff {s : Calls ι κ} {c : ι} {f : Failure} (compiling : (s.rebuild c).isCompiling = true) :
      Step w s (s.setRebuild c (.ended (.error f)))
  /-- All rule-sets that were compiled are served at once. -/
  | publish {s : Calls ι κ} {c : ι} {loaded : List (RuleSetType × Artifact)} {errors : List String}
      (compiling : s.rebuild c = .compiling [] loaded errors) :
      Step w s ({ s with loaded, built := some (c, errors) }.setRebuild c
        (.ended (.ok (.ofCount RuleSets.component loaded.length 0 errors))))
  /-- A caller asks for a rule-set with further assertions, or something happens at the cache. -/
  | caller {s : Calls ι κ} {e : RuleSets.CallerEvent κ} {v : RuleSets.Callers κ}
      (step : RuleSets.Callers.Step (w.ruleSets {}) e s.callers v)
      (globals : v.globals = s.snapshot.globals) : Step w s (s.setCallers v)

/-- Steps of any calls, in any order. -/
abbrev Reaches (w : Workspace) : Calls ι κ → Calls ι κ → Prop := Relation.ReflTransGen (Step w)

end Calls

end Conformity.Workspace
