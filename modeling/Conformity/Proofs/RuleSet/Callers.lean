import Conformity.Proofs.Assertion.Fingerprint
import Conformity.Proofs.Cache.Sharing
import Conformity.Proofs.Injection.Checks
import Conformity.Proofs.Work
import Conformity.RuleSet.Service

/-!
# Callers of customised rule-sets

Any number of callers ask for rule-sets with further assertions while the global assertions change
and rule-sets are reloaded. A caller first reads the global assertions of the moment; from these and
its own it makes the key under which it then calls the cache. If it has to compute, it compiles a
source into which it injects the assertions that it made the key from.

What a caller is given was compiled from a source with exactly the checks that the caller asked for
(`RuleSets.custom_sound`), although it may have been compiled for another caller, for whom the
assertions came in another order and in other numbers.
-/

namespace Conformity.RuleSets

open Markup

/-! ## Demands -/

/-- What a caller asks for, and the global assertions that it read. -/
structure Demand where
  type : RuleSetType
  assertions : List Assertion
  profile : Option String
  globals : Assertions

namespace Demand

/-- The rule-sets as the caller sees them. -/
def seen (s : RuleSets) (d : Demand) : RuleSets := { s with globals := d.globals }

/-- The global assertions for the type, and those of the caller. -/
def all (s : RuleSets) (d : Demand) : List Assertion := (d.seen s).globalsFor d.type ++ d.assertions

/-- The key that the caller makes. -/
def key (s : RuleSets) (d : Demand) : RuleKey := (d.seen s).key d.type d.assertions d.profile

/-- A computation of the caller may end in this way, whatever the clocks show and the disk holds. -/
def Ends (s : RuleSets) (d : Demand) (o : Outcome Artifact) : Prop :=
  o = .interrupted ∨ ∃ (present : Present) (st : RuleSetState),
    o = .ofExcept (resultOf (({ d.seen s with present } : RuleSets).compileCustom d.type (d.all s)
      (d.key s).profile) st).1

end Demand

/-- A source into which exactly the checks that assertions ask for were injected, in a pattern for a
profile. -/
def IsInjected (source injected : RuleSource) (as : List Assertion) (profile : String) : Prop :=
  ∃ d remark pattern, Faithful.read? source.content = some d ∧
    injected = { source with content := { d with root := d.root.append [remark, pattern] }.bytes } ∧
    Injection.idOf? pattern = some (Injection.patternId (some profile)) ∧
    ∀ c, c ∈ Injection.patternChecks pattern ↔ ∃ a ∈ as, a.check? = some c

/-- An artifact was compiled from the source of a type with exactly the checks that a caller asked
for, under the profile of the caller. -/
def CompiledFor (s : RuleSets) (d : Demand) (a : Artifact) : Prop :=
  ∃ (st : RuleSetState) (log : EngineLog) (source injected : RuleSource),
    (resultOf (s.source d.type) st).1 = .ok source ∧
      IsInjected source injected (d.all s) (d.key s).profile ∧
      (resultOf (Artifact.compile s.engine s.compiler injected
        (d.type.name ++ "[" ++ (d.key s).profile ++ "]")) log).1 = .ok a

/-! ## Compiling -/

variable {s : RuleSets}

theorem inject_eq_ok {source injected : RuleSource} {as : List Assertion} {profile : String}
    {st st' : RuleSetState} (h : resultOf (s.inject source as profile) st = (.ok injected, st')) :
    Injection.inject source as (some profile) s.present.here = .ok injected := by
  unfold inject at h
  split at h
  · next i hi =>
    cases h
    exact hi
  · cases h
  · cases h

theorem withEngine_eq_ok {α : Type} {x : Artifact.Work α} {a : α} {st st' : RuleSetState}
    (h : resultOf (withEngine x) st = (.ok a, st')) : ∃ log, (resultOf x log).1 = .ok a := by
  refine ⟨st.log, ?_⟩
  have heq : (resultOf (withEngine x) st).1 = (resultOf x st.log).1.mapError Failure.compilation :=
    rfl
  rw [h] at heq
  cases hx : (resultOf x st.log).1 with
  | ok b =>
      rw [hx] at heq
      cases heq
      rfl
  | error e =>
      rw [hx] at heq
      cases heq

/-- What a compilation with assertions gives was compiled from a source with their checks. -/
theorem compileCustom_eq_ok {t : RuleSetType} {as : List Assertion} {profile : String} {a : Artifact}
    {st st' : RuleSetState} (h : resultOf (s.compileCustom t as profile) st = (.ok a, st')) :
    ∃ st₁ log source injected, (resultOf (s.source t) st₁).1 = .ok source ∧
      Injection.inject source as (some profile) s.present.here = .ok injected ∧
      (resultOf (Artifact.compile s.engine s.compiler injected (t.name ++ "[" ++ profile ++ "]"))
        log).1 = .ok a := by
  unfold compileCustom at h
  obtain ⟨c, st₁, -, h⟩ := resultOf_bind_eq_ok h
  split at h
  · cases h
  · obtain ⟨source, st₂, hsource, h⟩ := resultOf_bind_eq_ok h
    obtain ⟨injected, st₃, hinjected, h⟩ := resultOf_bind_eq_ok h
    obtain ⟨artifact, st₄, hartifact, h⟩ := resultOf_bind_eq_ok h
    obtain ⟨_, st₅, -, h⟩ := resultOf_bind_eq_ok h
    cases h
    obtain ⟨log, hlog⟩ := withEngine_eq_ok hartifact
    exact ⟨st₁, log, source, injected, by rw [hsource], inject_eq_ok hinjected, hlog⟩

/-! ## Callers -/

/-- The cache of customised rule-sets among its callers. -/
structure Callers (ι : Type) where
  /-- The global assertions of the moment. -/
  globals : Assertions
  demand : ι → Option Demand
  scene : Scene ι RuleKey Artifact

/-- One thing that happens at once. -/
inductive CallerEvent (ι : Type) where
  /-- The global assertions change. -/
  | publish (globals : Assertions)
  /-- A caller reads the global assertions for what it asks for. -/
  | read (c : ι) (type : RuleSetType) (assertions : List Assertion) (profile : Option String)
  /-- Something happens at the cache; a reload empties it. -/
  | atCache (e : Event ι RuleKey Artifact)

namespace Callers

variable {ι : Type}

/-- Callers of a cache before anything has happened. -/
def start (cache : ComputeCache RuleKey Artifact) (globals : Assertions) : Callers ι :=
  ⟨globals, fun _ => none, .start cache⟩

/-- Calls ask for the keys of their demands, and compute what they asked for. -/
def Permits (s : RuleSets) (w : Callers ι) : Event ι RuleKey Artifact → Prop
  | .ask c key _ => ∃ d, w.demand c = some d ∧ key = d.key s
  | .finish c o => ∃ d, w.demand c = some d ∧ d.Ends s o
  | _ => True

variable [DecidableEq ι]

/-- What one event does. -/
inductive Step (s : RuleSets) : CallerEvent ι → Callers ι → Callers ι → Prop
  | publish {w : Callers ι} (globals : Assertions) :
      Step s (.publish globals) w { w with globals }
  | read {w : Callers ι} {c : ι} (type : RuleSetType) (assertions : List Assertion)
      (profile : Option String) (fresh : w.demand c = none) :
      Step s (.read c type assertions profile) w
        { w with demand :=
            Function.update w.demand c (some ⟨type, assertions, profile, w.globals⟩) }
  | atCache {w : Callers ι} {e : Event ι RuleKey Artifact} {scene : Scene ι RuleKey Artifact}
      (permitted : Permits s w e) (step : Scene.Step RuleKey.told e w.scene scene) :
      Step s (.atCache e) w { w with scene }

/-- Several events one after another. -/
inductive Run (s : RuleSets) : List (CallerEvent ι) → Callers ι → Callers ι → Prop
  | nil {w : Callers ι} : Run s [] w w
  | cons {e : CallerEvent ι} {es : List (CallerEvent ι)} {w w' w'' : Callers ι} :
      Step s e w w' → Run s es w' w'' → Run s (e :: es) w w''

/-- Every call asked for the key of its demand, and every computation ended in a way in which the
compilation for the demand of its owner may end. -/
structure Matched (s : RuleSets) (w : Callers ι) : Prop where
  sound : Scene.Sound RuleKey.told w.scene
  key : ∀ {c : ι} {key : RuleKey}, (w.scene.call c).key? = some key →
    ∃ d, w.demand c = some d ∧ key = d.key s
  ends : ∀ {c : ι} {job : Computation RuleKey} {o : Outcome Artifact},
    (w.scene.call c).ended? = some (job, o) → ∃ d, w.demand c = some d ∧ d.Ends s o

variable {w w' : Callers ι} {e : CallerEvent ι} {es : List (CallerEvent ι)}

/-- Events of calls that are permitted are events of callers. -/
theorem Run.of_scene {es : List (Event ι RuleKey Artifact)}
    {scene : Scene ι RuleKey Artifact} (run : Scene.Run RuleKey.told es w.scene scene)
    (permitted : ∀ e ∈ es, Permits s w e) :
    Run s (es.map .atCache) w { w with scene } := by
  obtain ⟨globals, demand, start⟩ := w
  dsimp only at run
  induction run with
  | nil => exact .nil
  | cons step run ih =>
      refine .cons (.atCache (permitted _ List.mem_cons_self) step) (ih ?_)
      intro e he
      have hpermits := permitted e (List.mem_cons_of_mem _ he)
      cases e <;> exact hpermits

/-- A caller keeps its demand. -/
theorem Step.demand_stays (step : Step s e w w') {c : ι} {d : Demand} (h : w.demand c = some d) :
    w'.demand c = some d := by
  cases step with
  | publish globals => exact h
  | @read _ c' type assertions profile fresh =>
      have hne : c ≠ c' := by
        rintro rfl
        rw [fresh] at h
        cases h
      exact (Function.update_of_ne hne ..).trans h
  | atCache permitted step => exact h

theorem Matched.step (inv : Matched s w) (step : Step s e w w') : Matched s w' := by
  have hstays := fun {c} {d} => step.demand_stays (c := c) (d := d)
  have hkey : ∀ {c : ι} {key : RuleKey}, (w.scene.call c).key? = some key →
      ∃ d, w'.demand c = some d ∧ key = d.key s :=
    fun h => (inv.key h).imp fun _ hd => ⟨hstays hd.1, hd.2⟩
  have hends : ∀ {c : ι} {job : Computation RuleKey} {o : Outcome Artifact},
      (w.scene.call c).ended? = some (job, o) → ∃ d, w'.demand c = some d ∧ d.Ends s o :=
    fun h => (inv.ends h).imp fun _ hd => ⟨hstays hd.1, hd.2⟩
  cases step with
  | publish globals => exact ⟨inv.sound, hkey, hends⟩
  | read type assertions profile fresh => exact ⟨inv.sound, hkey, hends⟩
  | @atCache _ e scene permitted step =>
      refine ⟨inv.sound.step step, ?_, ?_⟩
      · intro c key h
        rcases step.key?_new h with hold | ⟨now, rfl⟩
        · exact hkey hold
        · exact permitted
      · intro c job o h
        rcases step.change c with heq | hchange
        · exact hends (by rw [← heq]; exact h)
        · rcases hchange.ended?_new h with hold | ⟨rfl, -⟩
          · exact hends hold
          · exact permitted

theorem Matched.run (inv : Matched s w) (run : Run s es w w') : Matched s w' := by
  induction run with
  | nil => exact inv
  | cons step _ ih => exact ih (inv.step step)

omit [DecidableEq ι] in
theorem Matched.start {name : String} {size lifetime : Int} {cache : ComputeCache RuleKey Artifact}
    (s : RuleSets) (globals : Assertions)
    (made : ComputeCache.make? RuleKey Artifact name size lifetime = some cache) :
    Matched s (Callers.start (ι := ι) cache globals) :=
  ⟨Scene.Sound.start _ made, fun h => (nomatch h), fun h => (nomatch h)⟩

end Callers

/-! ## What callers get -/

theorem name_injective {t t' : RuleSetType} (h : t.name = t'.name) : t = t' := by
  cases t <;> cases t' <;> first | rfl | exact absurd h (by decide)

/-- What was compiled for one demand was compiled for every demand with the same key, unless the
digests of different assertions are the same. -/
theorem Demand.Ends.compiledFor {d d' : Demand} {a : Artifact} (h : d'.Ends s (.value a))
    (hkey : d.key s = d'.key s)
    (nocollision : Digest.sha256 (Assertion.fingerprintInput (d.all s)) =
      Digest.sha256 (Assertion.fingerprintInput (d'.all s)) →
        Assertion.fingerprintInput (d.all s) = Assertion.fingerprintInput (d'.all s)) :
    CompiledFor s d a := by
  rcases h with h | ⟨present, st, hresult⟩
  · cases h
  · have htype : d.type = d'.type := name_injective (congrArg RuleKey.type hkey)
    have hprofile : (d.key s).profile = (d'.key s).profile := congrArg RuleKey.profile hkey
    have hmem := Assertion.mem_iff_of_fingerprintInput_eq
      (nocollision (congrArg RuleKey.fingerprint hkey))
    -- the compilation has ended with a value, so it was begun from a source with the checks
    rcases hrun : resultOf (({ d'.seen s with present } : RuleSets).compileCustom d'.type (d'.all s)
      (d'.key s).profile) st with ⟨r, st'⟩
    rw [hrun] at hresult
    cases r with
    | error e => cases e <;> cases hresult
    | ok b =>
        cases hresult
        obtain ⟨st₁, log, source, injected, hsource, hinject, hcompile⟩ := compileCustom_eq_ok hrun
        obtain ⟨doc, remark, pattern, hread, hbytes, hid, hchecks⟩ := Injection.inject_eq_ok hinject
        refine ⟨st₁, log, source, injected, ?_, ⟨doc, remark, pattern, hread, hbytes, ?_, ?_⟩, ?_⟩
        · rw [htype]
          exact hsource
        · rw [hprofile]
          exact hid
        · intro c
          -- the order and the number of the assertions do not matter to the set of checks
          rw [hchecks.mem_iff, List.mem_filterMap]
          simp only [hmem]
        · rw [htype, hprofile]
          exact hcompile

/-- Whatever callers ask for while global assertions change and rule-sets are reloaded, in whatever
order: an artifact that a call is given was compiled from a source with exactly the checks that the
call asked for. -/
theorem custom_sound {ι : Type} [DecidableEq ι] {name : String} {size lifetime : Int}
    {cache : ComputeCache RuleKey Artifact} {globals : Assertions} {es : List (CallerEvent ι)}
    {w : Callers ι} (made : ComputeCache.make? RuleKey Artifact name size lifetime = some cache)
    (run : Callers.Run s es (.start cache globals) w)
    (nocollision : ∀ {c c' : ι} {d d' : Demand}, w.demand c = some d → w.demand c' = some d' →
      Digest.sha256 (Assertion.fingerprintInput (d.all s)) =
        Digest.sha256 (Assertion.fingerprintInput (d'.all s)) →
      Assertion.fingerprintInput (d.all s) = Assertion.fingerprintInput (d'.all s))
    {c : ι} {a : Artifact} (reply : w.scene.reply? RuleKey.told c = some (.value a)) :
    ∃ d, w.demand c = some d ∧ CompiledFor s d a := by
  have inv := (Callers.Matched.start s globals made).run run
  -- the value was computed by a call `p` for the same key, with a demand of its own
  obtain ⟨p, job, hkey, hclosed⟩ := inv.sound.reply_source reply
  have hended := Call.ended?_of_closed? hclosed
  obtain ⟨d, hd, hdkey⟩ := inv.key hkey
  obtain ⟨d', hd', hends⟩ := inv.ends hended
  have hownkey : (w.scene.call p).key? = some job.key := by
    obtain ⟨progress, heq⟩ := Call.eq_owner (Call.job?_of_ended? hended)
    rw [heq]
    rfl
  obtain ⟨d'', hd'', hd''key⟩ := inv.key hownkey
  obtain rfl : d' = d'' := Option.some.inj (hd'.symm.trans hd'')
  exact ⟨d, hd, hends.compiledFor (hdkey.symm.trans hd''key) (nocollision hd hd')⟩

/-! ### Two callers

While a rule-set is compiled for one caller, an assertion that it brought becomes a global one.
Another caller asks with the other assertion alone, and joins. -/

/-- Rule-sets with an engine that lets everything pass. -/
def letThrough : RuleSets where
  storage := { root := ["assets"] }
  configured := [(.ubltrMain, { path := "main.sch" })]
  compiler := { parameterAllowList := [] }
  engine :=
    { pass := fun _ _ document => .ok document
      compile := fun content => .ok ⟨content⟩
      apply := fun _ _ _ => .ok []
      compileSchema := fun content => .ok ⟨content⟩
      validate := fun _ _ => [] }
  present := { here := "now", universal := "now" }

/-- A source without rules on the disk. -/
def withoutRules : RuleSetState where
  disk :=
    { nodes :=
        [(["assets"], .folder),
          (["assets", "main.sch"],
            .file (bytesOf "<schema xmlns=\"http://purl.oclc.org/dsdl/schematron\"/>"))] }
  cache := ⟨"results", 1, 60, [], [], 0, 0, 0⟩

def hasId : Assertion :=
  { context := some "Invoice", test := some "ID", message := some "no id" }

def hasDate : Assertion :=
  { context := some "Invoice", test := some "Date", message := some "no date" }

def firstDemand : Demand := ⟨.ubltrMain, [hasId, hasDate], some "p", []⟩

def secondDemand : Demand := ⟨.ubltrMain, [hasId], some "p", [("UBLTR_MAIN", [hasDate])]⟩

theorem exists_of_isOk {ε α : Type} {x : Except ε α} (h : x.isOk = true) : ∃ a, x = .ok a := by
  cases x with
  | ok a => exact ⟨a, rfl⟩
  | error e => cases h

theorem custom_sound_of_two : ∃ (cache : ComputeCache RuleKey Artifact) (es : List (CallerEvent Nat))
    (w : Callers Nat) (a : Artifact),
    ComputeCache.make? RuleKey Artifact "results" 1 60 = some cache ∧
      Callers.Run letThrough es (.start cache []) w ∧ w.demand 1 = some secondDemand ∧
      w.scene.reply? RuleKey.told 0 = some (.value a) ∧
      w.scene.reply? RuleKey.told 1 = some (.value a) ∧ CompiledFor letThrough secondDemand a := by
  have hinput : Assertion.fingerprintInput (firstDemand.all letThrough) =
      Assertion.fingerprintInput (secondDemand.all letThrough) :=
    Assertion.fingerprintInput_eq_of_perm (List.Perm.swap ..)
  have hkey : firstDemand.key letThrough = secondDemand.key letThrough :=
    RuleKey.mk.injEq .. |>.mpr ⟨rfl, rfl, congrArg Digest.sha256 hinput⟩
  obtain ⟨a, hends⟩ : ∃ a, firstDemand.Ends letThrough (.value a) := by
    have hok : (resultOf (({ firstDemand.seen letThrough with present := letThrough.present } :
        RuleSets).compileCustom .ubltrMain (firstDemand.all letThrough) "p")
          withoutRules).1.isOk = true := by
      decide +kernel
    obtain ⟨a, ha⟩ := exists_of_isOk hok
    exact ⟨a, Or.inr ⟨letThrough.present, withoutRules, (congrArg Outcome.ofExcept ha).symm⟩⟩
  obtain ⟨scene, calm, h₀, h₁⟩ := Scene.twoCalls_calm RuleKey.told (firstDemand.key letThrough) a
  have hmade : ComputeCache.make? RuleKey Artifact "results" 1 60 =
      some ⟨"results", 1, 60, [], [], 0, 0, 0⟩ := rfl
  obtain ⟨es, w, hrun, hdemand, hscene⟩ : ∃ (es : List (CallerEvent Nat)) (w : Callers Nat),
      Callers.Run letThrough es (.start ⟨"results", 1, 60, [], [], 0, 0, 0⟩ []) w ∧
        w.demand = Function.update (Function.update (fun _ => none) 0 (some firstDemand)) 1
          (some secondDemand) ∧ w.scene = scene := by
    refine ⟨_, _, .cons (.read (c := 0) .ubltrMain [hasId, hasDate] (some "p") rfl)
      (.cons (.publish secondDemand.globals)
        (.cons (.read (c := 1) .ubltrMain [hasId] (some "p") rfl)
          (.of_scene calm.run ?_))), rfl, rfl⟩
    intro e he
    simp only [Scene.twoCalls, List.mem_cons, List.not_mem_nil, or_false] at he
    -- the second caller makes the key from other assertions, but it is the key of the first
    rcases he with rfl | rfl | rfl | rfl | rfl | rfl
    · exact ⟨firstDemand, rfl, rfl⟩
    · exact ⟨secondDemand, rfl, hkey⟩
    · exact ⟨firstDemand, rfl, hends⟩
    · trivial
    · trivial
    · trivial
  have hdemands : ∀ {c : Nat} {d : Demand}, w.demand c = some d →
      d = firstDemand ∨ d = secondDemand := by
    intro c d hd
    rw [hdemand] at hd
    by_cases hc : c = 1
    · rw [hc, Function.update_self] at hd
      exact Or.inr (Option.some.inj hd).symm
    · rw [Function.update_of_ne hc] at hd
      by_cases hc' : c = 0
      · rw [hc', Function.update_self] at hd
        exact Or.inl (Option.some.inj hd).symm
      · rw [Function.update_of_ne hc'] at hd
        cases hd
  have hinputs : ∀ {c : Nat} {d : Demand}, w.demand c = some d →
      Assertion.fingerprintInput (d.all letThrough) =
        Assertion.fingerprintInput (firstDemand.all letThrough) := by
    intro c d hd
    rcases hdemands hd with rfl | rfl
    · rfl
    · exact hinput.symm
  rw [← hscene] at h₀ h₁
  have hsecond : w.demand 1 = some secondDemand := by rw [hdemand, Function.update_self]
  obtain ⟨d, hd, hcompiled⟩ := custom_sound hmade hrun
    (fun hc hc' _ => (hinputs hc).trans (hinputs hc').symm) h₁
  obtain rfl : d = secondDemand := Option.some.inj (hd.symm.trans hsecond)
  exact ⟨_, es, w, a, hmade, hrun, hsecond, h₀, h₁, hcompiled⟩

end Conformity.RuleSets
