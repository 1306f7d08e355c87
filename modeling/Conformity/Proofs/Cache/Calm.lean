import Conformity.Proofs.Cache.Source

/-!
# Runs that leave a key alone

Over a run in which the value of a key is not dropped, the cache is not emptied and no computation
of the key fails (`Scene.Calm`), the key stands for one computation from the first call on that
rests on a sound one. That computation is the invariant of the run: it stays open, or its value
stays kept.

A computation may have failed before the run without the cache knowing. Calls may still join it in
the run, and they get no value; they are kept apart as calls that wait for a failure
(`Scene.Failed`).
-/

namespace Conformity.Scene

open ComputeCache (mem_without)

variable {ι κ ν : Type}

/-- A computation has ended without a value. -/
def Failed (s : Scene ι κ ν) (job : Computation κ) : Prop :=
  ∃ p o, (s.call p).ended? = some (job, o) ∧ ∀ v, o ≠ .value v

/-- An event leaves a key alone. -/
structure LeavesAlone (key : κ) (e : Event ι κ ν) (s s' : Scene ι κ ν) : Prop where
  /-- The value of the key neither expires nor is evicted nor invalidated. -/
  keeps : (∃ x ∈ s.cache.entries, x.key = key) → ∃ x ∈ s'.cache.entries, x.key = key
  notEmptied : e ≠ .invalidateAll
  noFailure : ∀ {c : ι} {job : Computation κ} {o : Outcome ν}, e = .finish c o →
    (s.call c).job? = some job → job.key = key → ∃ v, o = .value v

variable [DecidableEq ι] [DecidableEq κ]

/-- A run in which every event leaves a key alone. -/
inductive Calm (told : κ → String) (key : κ) :
    List (Event ι κ ν) → Scene ι κ ν → Scene ι κ ν → Prop
  | nil {s : Scene ι κ ν} : Calm told key [] s s
  | cons {e : Event ι κ ν} {es : List (Event ι κ ν)} {s s' s'' : Scene ι κ ν} :
      Step told e s s' → LeavesAlone key e s s' → Calm told key es s' s'' →
        Calm told key (e :: es) s s''

variable {told : κ → String} {s s' : Scene ι κ ν} {e : Event ι κ ν} {es : List (Event ι κ ν)}
  {key : κ}

theorem Calm.run (h : Calm told key es s s') : Run told es s s' := by
  induction h with
  | nil => exact .nil
  | cons step _ _ ih => exact .cons step ih

/-! ## Failures -/

/-- No computation of a key that is left alone fails. -/
theorem LeavesAlone.failed (alone : LeavesAlone key e s s') (step : Step told e s s')
    {job : Computation κ} (hkey : job.key = key) (h : Failed s' job) : Failed s job := by
  obtain ⟨p, o, hended, hfail⟩ := h
  rcases step.change p with heq | hchange
  · exact ⟨p, o, by rw [← heq]; exact hended, hfail⟩
  · rcases hchange.ended?_new hended with hold | ⟨rfl, hjob⟩
    · exact ⟨p, o, hold, hfail⟩
    · obtain ⟨v, rfl⟩ := alone.noFailure rfl hjob hkey
      exact absurd rfl (hfail v)

/-- What has failed by the end of a run that leaves the key alone had failed at its beginning. -/
theorem Calm.failed (calm : Calm told key es s s') {job : Computation κ} (hkey : job.key = key)
    (h : Failed s' job) : Failed s job := by
  induction calm with
  | nil => exact h
  | cons step alone _ ih => exact alone.failed step hkey (ih h)

/-! ## The computation that a key stands for -/

/-- The computation that a key stands for goes on or has its value kept. -/
theorem StandsFor.step (inv : Sound told s) {job : Computation κ} (h : StandsFor s key job)
    (hgood : ¬ Failed s job) (step : Step told e s s') (alone : LeavesAlone key e s s') :
    StandsFor s' key job := by
  have inv' := inv.step step
  obtain ⟨hkey, hgen, hcase⟩ := h
  have hgen' : s'.cache.generation = s.cache.generation := by
    have heq := step.generation_eq
    cases e with
    | invalidateAll => exact absurd rfl alone.notEmptied
    | _ => exact heq
  refine ⟨hkey, hgen.trans hgen'.symm, ?_⟩
  rcases hcase with ⟨-, p, hopen⟩ | ⟨x, hx, hxkey, p, hclosed⟩
  · have hstill : (s'.call p).open? = some job → (key, job.number) ∈ s'.cache.pending ∧
        ∃ p, (s'.call p).open? = some job := fun hopen' =>
      ⟨inv'.tracked.mem_pending.mpr ⟨p, job, hopen', hgen.trans hgen'.symm, hkey, rfl⟩, p, hopen'⟩
    rcases step.change p with heq | hchange
    · exact Or.inl (hstill (by rw [heq]; exact hopen))
    · rcases hchange.open?_stays hopen with hopen' | ⟨now, o, rfl, hended, hsettled⟩
      · exact Or.inl (hstill hopen')
      · -- the cache is told of a value, and there is room for it
        have hvalue : ∃ v, o = .value v := by
          by_contra hnone
          exact hgood ⟨p, o, by rw [hended]; rfl, fun v hv => hnone ⟨v, hv⟩⟩
        obtain ⟨v, rfl⟩ := hvalue
        cases step with
        | settle _ ended =>
            rw [ended] at hended
            cases hended
            rw [setCall_cache, ComputeCache.settle_of_value hgen, ← hkey]
            refine Or.inr ⟨_, ComputeCache.mem_keep_self now job.key v inv.kept.room, rfl, p, ?_⟩
            rw [setCall_call_self]
            rfl
  · obtain ⟨y, hy, hykey⟩ := alone.keeps ⟨x, hx, hxkey⟩
    -- what is kept for the key is what was kept before
    obtain ⟨-, hold | ⟨c, job', hopen, -, hjob', hgen₁⟩⟩ := step.mem_entries hy
    · obtain rfl := inv.kept.onePerKey.eq hold hx (hykey.trans hxkey.symm)
      exact Or.inr ⟨y, hy, hykey, p, step.stays lasting_closed? hclosed⟩
    · have hpending := inv.tracked.mem_pending.mpr ⟨c, job', hopen, hgen₁, hjob', rfl⟩
      exact absurd hpending (by rw [hykey, ← hxkey]; exact inv.kept.apart hx _)

/-- While a key stands for a computation, calls for it rest on that computation and begin none. -/
theorem StandsFor.ask (inv : Sound told s) {job : Computation κ} (h : StandsFor s key job) {c : ι}
    {now : Int} (step : Step told (.ask c key now) s s')
    (alone : LeavesAlone key (.ask c key now) s s') :
    RestsOn s' c job ∧ (s'.call c).job? = none := by
  obtain ⟨rfl, -, hcase⟩ := h
  have hstep := step
  cases step with
  | served unmade found =>
      obtain ⟨y, hy, hykey, rfl, -, rfl⟩ := ComputeCache.lookUp_value found
      rcases hcase with ⟨hmem, -⟩ | ⟨x, hx, hxkey, p, hclosed⟩
      · exact absurd hmem (by rw [← hykey]; exact inv.kept.apart hy _)
      · obtain rfl := inv.kept.onePerKey.eq hy hx (hykey.trans hxkey.symm)
        have hclosed' := hstep.stays lasting_closed? hclosed
        refine ⟨Or.inr (Or.inr ⟨y.value, p, ?_, hclosed'⟩), ?_⟩ <;> rw [setCall_call_self] <;> rfl
  | joined unmade found =>
      obtain ⟨hlookup, rfl⟩ := ComputeCache.lookUp_running found
      have hn := inv.tracked.lookup_eq_some.mp hlookup
      rcases hcase with ⟨hmem, p, hopen⟩ | ⟨x, hx, hxkey, -⟩
      · obtain rfl := inv.tracked.number_eq hmem hn
        have hown := hstep.stays lasting_job? (Call.job?_eq_some.mpr (Or.inl hopen))
        refine ⟨Or.inr (Or.inl ⟨?_, p, hown⟩), ?_⟩ <;> rw [setCall_call_self] <;> rfl
      · exact absurd hn (by rw [← hxkey]; exact inv.kept.apart hx _)
  | owned unmade found =>
      obtain ⟨hnone, -, rfl⟩ := ComputeCache.lookUp_absent found
      rcases hcase with ⟨hmem, -⟩ | ⟨x, hx, hxkey, -⟩
      · exact absurd hmem (inv.tracked.lookup_eq_none.mp hnone _)
      · -- a value that is found expired is dropped
        obtain ⟨y, hy, hykey⟩ := alone.keeps ⟨x, hx, hxkey⟩
        exact absurd hykey (mem_without.mp hy).2

/-- Once a key stands for a computation that does not fail, all calls for it rest on that
computation. -/
theorem StandsFor.calm (inv : Sound told s) {job : Computation κ} (h : StandsFor s key job)
    (hgood : ¬ Failed s job) (calm : Calm told key es s s') {c : ι} {now : Int}
    (hask : .ask c key now ∈ es) : RestsOn s' c job := by
  induction calm with
  | nil => cases hask
  | cons step alone calm ih =>
      rcases List.mem_cons.mp hask with rfl | hmem
      · exact (h.ask inv step alone).1.run calm.run
      · exact ih (inv.step step) (h.step inv hgood step alone)
          (fun hfailed => hgood (alone.failed step h.1 hfailed)) hmem

/-- A computation that has just begun has not ended. -/
theorem Step.ended?_ask {c : ι} {now : Int} (step : Step told (.ask c key now) s s') :
    (s'.call c).ended? = none := by
  cases step <;> rw [setCall_call_self] <;> rfl

/-- A call that rests on a failed computation from the beginning has joined it. -/
theorem Sound.ask_failed (inv : Sound told s) {c : ι} {now : Int} {job : Computation κ}
    (step : Step told (.ask c key now) s s') (hrests : RestsOn s' c job) (hkey : job.key = key)
    (hfailed : Failed s' job) : (s'.call c).joined? = some (key, job.number) := by
  obtain ⟨p, o, hended, hfail⟩ := hfailed
  have inv' := inv.step step
  have hjob := Call.job?_of_ended? hended
  rcases hrests with hown | ⟨hjoined, -⟩ | ⟨v, q, -, hclosed⟩
  · -- a computation that begins has not ended
    obtain ⟨rfl, -⟩ := inv'.numbered.job_eq hjob hown rfl
    rw [step.ended?_ask] at hended
    cases hended
  · rw [← hkey]
    exact hjoined
  · obtain ⟨rfl, -⟩ := inv'.numbered.job_eq hjob (Call.job?_eq_some.mpr (Or.inr ⟨_, hclosed⟩)) rfl
    rw [Call.ended?_of_closed? hclosed] at hended
    cases hended
    exact absurd rfl (hfail v)

/-- Over a run that leaves a key alone there is one computation on which all calls for the key rest
and which does not fail, but for those calls that joined a computation which had failed before. -/
theorem Calm.asked (inv : Sound told s) (calm : Calm told key es s s') :
    ∃ job : Computation κ, ∀ {c : ι} {now : Int}, .ask c key now ∈ es →
      (RestsOn s' c job ∧ ¬ Failed s' job) ∨
        ∃ old, (s'.call c).joined? = some (key, old.number) ∧ old.key = key ∧ Failed s old := by
  induction calm with
  | @nil s => exact ⟨⟨0, key, 0⟩, fun hask => nomatch hask⟩
  | @cons e es s s₁ s' step alone calm ih =>
      obtain ⟨job', hrest⟩ := ih (inv.step step)
      -- what the rest of the run says of failures holds of the whole run
      have hrest' : ∀ {c : ι} {now : Int}, .ask c key now ∈ es →
          (RestsOn s' c job' ∧ ¬ Failed s' job') ∨
            ∃ old, (s'.call c).joined? = some (key, old.number) ∧ old.key = key ∧ Failed s old := by
        intro c now hask
        rcases hrest hask with h | ⟨old, hjoined, hkey, hfailed⟩
        · exact Or.inl h
        · exact Or.inr ⟨old, hjoined, hkey, alone.failed step hkey hfailed⟩
      by_cases hask : ∃ c now, e = .ask c key now
      · obtain ⟨c, now, rfl⟩ := hask
        obtain ⟨job, hstands, hrests⟩ := inv.ask step
        by_cases hfailed : Failed s₁ job
        · refine ⟨job', ?_⟩
          intro c' now' hmem
          rcases List.mem_cons.mp hmem with heq | htail
          · cases heq
            have hjoined := inv.ask_failed step hrests hstands.1 hfailed
            exact Or.inr ⟨job, calm.run.stays lasting_joined? hjoined, hstands.1,
              alone.failed step hstands.1 hfailed⟩
          · exact hrest' htail
        · have hgood : ¬ Failed s' job := fun h => hfailed (calm.failed hstands.1 h)
          refine ⟨job, ?_⟩
          intro c' now' hmem
          rcases List.mem_cons.mp hmem with heq | htail
          · cases heq
            exact Or.inl ⟨hrests.run calm.run, hgood⟩
          · exact Or.inl ⟨hstands.calm (inv.step step) hfailed calm htail, hgood⟩
      · refine ⟨job', ?_⟩
        intro c now hmem
        rcases List.mem_cons.mp hmem with rfl | htail
        · exact absurd ⟨c, now, rfl⟩ hask
        · exact hrest' htail

end Conformity.Scene
