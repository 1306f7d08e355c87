import Conformity.Proofs.Cache.Scene
import Conformity.Proofs.Cache.Steps

/-!
# What holds among the callers of a cache

Four invariants, each resting on those before it. Computations are told apart by their numbers
(`Numbered`). The computations that can be joined are exactly those of the present generation whose
end the cache does not know (`Tracked`). Every value that is kept was computed in the present
generation, and no computation of its key can be joined (`Kept`). What those who joined are given is
what the computation ended with (`Answered`).

Every step keeps each of them, whatever the order of the steps.
-/

namespace Conformity.Scene

open ComputeCache (OnePerKey without mem_without)

variable {ι κ ν : Type}

/-- Computations are told apart by their numbers, and none is of a generation to come. -/
structure Numbered (s : Scene ι κ ν) : Prop where
  number_lt : ∀ {c : ι} {job : Computation κ}, (s.call c).job? = some job →
    job.number < s.cache.computations
  generation_le : ∀ {c : ι} {job : Computation κ}, (s.call c).job? = some job →
    job.generation ≤ s.cache.generation
  number_inj : ∀ {c c' : ι} {job job' : Computation κ}, (s.call c).job? = some job →
    (s.call c').job? = some job' → job.number = job'.number → c = c'

/-- The computations that can be joined are those of the present generation that are open. -/
structure Tracked (s : Scene ι κ ν) : Prop where
  keys_nodup : (s.cache.pending.map (·.1)).Nodup
  mem_pending : ∀ {key : κ} {n : Nat}, (key, n) ∈ s.cache.pending ↔
    ∃ c job, (s.call c).open? = some job ∧ job.generation = s.cache.generation ∧
      job.key = key ∧ job.number = n

/-- Every value that is kept is that of a computation of the present generation, and no computation
of its key can be joined. -/
structure Kept (s : Scene ι κ ν) : Prop where
  room : 0 < s.cache.maxSize
  onePerKey : OnePerKey s.cache.entries
  source : ∀ {e : CacheEntry κ ν}, e ∈ s.cache.entries →
    ∃ c job, (s.call c).closed? = some (job, .value e.value) ∧ job.key = e.key ∧
      job.generation = s.cache.generation
  apart : ∀ {e : CacheEntry κ ν}, e ∈ s.cache.entries → ∀ n, (e.key, n) ∉ s.cache.pending

/-- Those who joined a computation are given what it ended with. -/
structure Answered (told : κ → String) (s : Scene ι κ ν) : Prop where
  served : ∀ {c : ι} {key : κ} {v : ν}, (s.call c).served? = some (key, v) →
    ∃ p job, (s.call p).closed? = some (job, .value v) ∧ job.key = key
  joined : ∀ {c : ι} {key : κ} {n : Nat}, (s.call c).joined? = some (key, n) →
    ∃ p job, (s.call p).job? = some job ∧ job.key = key ∧ job.number = n
  answer : ∀ {n : Nat} {a : Except ComputationFault ν}, s.answer n = some a ↔
    ∃ p job o, (s.call p).told? = some (job, o) ∧ job.number = n ∧ a = o.forJoined (told job.key)
  received : ∀ {c : ι} {n : Nat} {a : Except ComputationFault ν},
    (s.call c).received? = some (n, a) → s.answer n = some a

/-- All that holds among the callers of a cache. -/
structure Sound (told : κ → String) (s : Scene ι κ ν) : Prop where
  numbered : Numbered s
  tracked : Tracked s
  kept : Kept s
  answered : Answered told s

/-- A cache that was just made, and that nobody has called. -/
theorem Sound.start {name : String} {size lifetime : Int} {cache : ComputeCache κ ν}
    (told : κ → String) (h : ComputeCache.make? κ ν name size lifetime = some cache) :
    Sound told (Scene.start (ι := ι) cache) := by
  unfold ComputeCache.make? at h
  split at h
  · cases h
  · next hsize =>
    cases h
    refine ⟨⟨?_, ?_, ?_⟩, ⟨?_, ?_⟩, ⟨?_, ?_, ?_, ?_⟩, ⟨?_, ?_, ?_, ?_⟩⟩ <;>
      simp [Scene.start, Call.job?, Call.open?, Call.told?, Call.served?, Call.joined?,
        Call.received?, OnePerKey]
    omega

variable [DecidableEq ι] [DecidableEq κ] {told : κ → String} {s s' : Scene ι κ ν}
  {e : Event ι κ ν}

/-! ## Numbers -/

/-- The owner of a computation owned it before, or begins it now. -/
theorem Step.job?_cases (step : Step told e s s') {c : ι} {job : Computation κ}
    (h : (s'.call c).job? = some job) :
    (s.call c).job? = some job ∨
      ∃ key now, e = .ask c key now ∧ job = ⟨s.cache.computations, key, s.cache.generation⟩ ∧
        s'.cache.computations = s.cache.computations + 1 ∧
        s'.cache.generation = s.cache.generation := by
  rcases step.change c with heq | hchange
  · rw [heq] at h
    exact Or.inl h
  · rcases hchange.job?_new h with hold | ⟨key, now, cache, rfl, found⟩
    · exact Or.inl hold
    · obtain ⟨-, hjob, hcache⟩ := ComputeCache.lookUp_absent found
      refine Or.inr ⟨key, now, rfl, hjob, ?_, ?_⟩
      · rw [step.cache_ask, found, hcache]
      · rw [step.cache_ask, found, hcache]

theorem Step.computations_le (step : Step told e s s') :
    s.cache.computations ≤ s'.cache.computations := by
  cases step with
  | served _ found =>
      obtain ⟨_, -, -, -, -, rfl⟩ := ComputeCache.lookUp_value found
      exact Nat.le_refl _
  | joined _ found =>
      obtain ⟨-, rfl⟩ := ComputeCache.lookUp_running found
      exact Nat.le_refl _
  | owned _ found =>
      obtain ⟨-, -, rfl⟩ := ComputeCache.lookUp_absent found
      exact Nat.le_succ _
  | settle now _ => simp
  | _ => exact Nat.le_refl _

/-- Only emptying the cache begins a new generation. -/
theorem Step.generation_eq (step : Step told e s s') :
    s'.cache.generation =
      match e with
      | .invalidateAll => s.cache.generation + 1
      | _ => s.cache.generation := by
  cases step with
  | served _ found => obtain ⟨_, -, -, -, -, rfl⟩ := ComputeCache.lookUp_value found; rfl
  | joined _ found => obtain ⟨-, rfl⟩ := ComputeCache.lookUp_running found; rfl
  | owned _ found => obtain ⟨-, -, rfl⟩ := ComputeCache.lookUp_absent found; rfl
  | settle now _ => simp
  | _ => rfl

theorem Step.generation_le (step : Step told e s s') :
    s.cache.generation ≤ s'.cache.generation := by
  rw [step.generation_eq]
  split <;> omega

theorem Numbered.step (inv : Numbered s) (step : Step told e s s') : Numbered s' where
  number_lt := by
    intro c job h
    rcases step.job?_cases h with hold | ⟨key, now, -, rfl, hcount, -⟩
    · exact Nat.lt_of_lt_of_le (inv.number_lt hold) step.computations_le
    · rw [hcount]
      exact Nat.lt_succ_self _
  generation_le := by
    intro c job h
    rcases step.job?_cases h with hold | ⟨key, now, -, rfl, -, hgen⟩
    · exact Nat.le_trans (inv.generation_le hold) step.generation_le
    · exact Nat.le_of_eq hgen.symm
  number_inj := by
    intro c c' job job' h h' heq
    rcases step.job?_cases h with hold | ⟨key, now, he, rfl, -, -⟩
    · rcases step.job?_cases h' with hold' | ⟨key, now, -, rfl, -, -⟩
      · exact inv.number_inj hold hold' heq
      · exact absurd heq (Nat.ne_of_lt (inv.number_lt hold))
    · rcases step.job?_cases h' with hold' | ⟨key', now', he', rfl, -, -⟩
      · exact absurd heq.symm (Nat.ne_of_lt (inv.number_lt hold'))
      · rw [he] at he'
        cases he'
        rfl

omit [DecidableEq ι] [DecidableEq κ] in
/-- Two owners of computations with one number are the same call with the same computation. -/
theorem Numbered.job_eq (inv : Numbered s) {c c' : ι} {job job' : Computation κ}
    (h : (s.call c).job? = some job) (h' : (s.call c').job? = some job')
    (heq : job.number = job'.number) : c = c' ∧ job = job' := by
  obtain rfl := inv.number_inj h h' heq
  rw [h] at h'
  exact ⟨rfl, Option.some.inj h'⟩

/-! ## Computations that can be joined -/

omit [DecidableEq ι] [DecidableEq κ] in
/-- No key has two computations that can be joined. -/
theorem Tracked.number_eq (inv : Tracked s) {key : κ} {m n : Nat}
    (hm : (key, m) ∈ s.cache.pending) (hn : (key, n) ∈ s.cache.pending) : m = n :=
  congrArg Prod.snd (List.inj_on_of_nodup_map inv.keys_nodup hm hn rfl)

omit [DecidableEq ι] in
/-- A computation that can be joined is found under its key. -/
theorem Tracked.lookup_eq_some (inv : Tracked s) {key : κ} {n : Nat} :
    s.cache.pending.lookup key = some n ↔ (key, n) ∈ s.cache.pending := by
  constructor
  · intro h
    obtain ⟨l₁, l₂, heq, -⟩ := List.lookup_eq_some_iff.mp h
    rw [heq]
    simp
  · intro h
    cases hm : s.cache.pending.lookup key with
    | none => exact absurd (List.lookup_eq_none_iff.mp hm _ h) (by simp)
    | some m =>
        obtain ⟨l₁, l₂, heq, -⟩ := List.lookup_eq_some_iff.mp hm
        have hmem : (key, m) ∈ s.cache.pending := by rw [heq]; simp
        rw [inv.number_eq hmem h]

omit [DecidableEq ι] in
theorem Tracked.lookup_eq_none (inv : Tracked s) {key : κ} :
    s.cache.pending.lookup key = none ↔ ∀ n, (key, n) ∉ s.cache.pending := by
  rw [Option.eq_none_iff_forall_ne_some]
  exact forall_congr' fun n => not_congr inv.lookup_eq_some

omit [DecidableEq ι] [DecidableEq κ] in
/-- Nothing changes for those who want to join where neither the computations that can be joined nor
the open ones change. -/
theorem Tracked.congr (inv : Tracked s) (hpending : s'.cache.pending = s.cache.pending)
    (hgen : s'.cache.generation = s.cache.generation)
    (hopen : ∀ c, (s'.call c).open? = (s.call c).open?) : Tracked s' where
  keys_nodup := by
    rw [hpending]
    exact inv.keys_nodup
  mem_pending := by
    intro key n
    rw [hpending, hgen, inv.mem_pending]
    simp only [hopen]

/-- A computation that begins can be joined. -/
theorem Tracked.owned (inv : Tracked s) {c : ι} {key : κ} {now : Int} {job : Computation κ}
    {cache : ComputeCache κ ν} (unmade : s.call c = .unmade)
    (found : s.cache.lookUp now key = (.absent job, cache)) :
    Tracked ({ s with cache }.setCall c (.owner job .running)) := by
  obtain ⟨hnone, rfl, rfl⟩ := ComputeCache.lookUp_absent found
  have hfree := inv.lookup_eq_none.mp hnone
  refine ⟨?_, ?_⟩
  · refine List.nodup_cons.mpr ⟨?_, inv.keys_nodup⟩
    intro hmem
    obtain ⟨⟨k, n⟩, hp, rfl⟩ := List.mem_map.mp hmem
    exact hfree n hp
  · intro k n
    rw [setCall_cache, List.mem_cons, inv.mem_pending]
    constructor
    · rintro (heq | ⟨c', job', hopen, hgen, hkey, hnum⟩)
      · cases heq
        exact ⟨c, _, by rw [setCall_call_self]; rfl, rfl, rfl, rfl⟩
      · have hne : c' ≠ c := by
          rintro rfl
          rw [unmade] at hopen
          cases hopen
        exact ⟨c', job', by rw [setCall_call_of_ne hne]; exact hopen, hgen, hkey, hnum⟩
    · rintro ⟨c', job', hopen, hgen, hkey, hnum⟩
      rcases eq_or_ne c' c with rfl | hne
      · rw [setCall_call_self] at hopen
        cases hopen
        exact Or.inl (by rw [← hkey, ← hnum])
      · rw [setCall_call_of_ne hne] at hopen
        exact Or.inr ⟨c', job', hopen, hgen, hkey, hnum⟩

/-- A computation of which the cache knows how it ended can no longer be joined; all others can be
joined as before. -/
theorem Tracked.settle (inv : Tracked s) (hnum : Numbered s) {c : ι} {job : Computation κ}
    {o : Outcome ν} (now : Int) (ended : s.call c = .owner job (.ended o)) :
    Tracked ({ s with cache := s.cache.settle now job o }.setCall c (.owner job (.settled o))) := by
  have hjob : (s.call c).job? = some job := by rw [ended]; rfl
  refine ⟨?_, ?_⟩
  · rw [setCall_cache, ComputeCache.settle_pending]
    exact List.Nodup.sublist (List.filter_sublist.map _) inv.keys_nodup
  · intro k n
    rw [setCall_cache, ComputeCache.settle_pending, ComputeCache.settle_generation,
      ComputeCache.mem_giveUp, inv.mem_pending]
    constructor
    · rintro ⟨⟨c', job', hopen, hgen, hkey, hn⟩, hother⟩
      have hne : c' ≠ c := by
        rintro rfl
        have hjob' := Call.job?_eq_some.mpr (Or.inl hopen)
        rw [hjob] at hjob'
        cases hjob'
        exact hother (by rw [hkey, hn])
      exact ⟨c', job', by rw [setCall_call_of_ne hne]; exact hopen, hgen, hkey, hn⟩
    · rintro ⟨c', job', hopen, hgen, hkey, hn⟩
      rcases eq_or_ne c' c with rfl | hne
      · rw [setCall_call_self] at hopen
        cases hopen
      · rw [setCall_call_of_ne hne] at hopen
        refine ⟨⟨c', job', hopen, hgen, hkey, hn⟩, ?_⟩
        intro heq
        cases heq
        -- only the computation that ends has its number
        exact hne (hnum.number_inj (Call.job?_eq_some.mpr (Or.inl hopen)) hjob hn)

theorem Tracked.step (inv : Tracked s) (hnum : Numbered s) (step : Step told e s s') :
    Tracked s' := by
  cases step with
  | served unmade found =>
      obtain ⟨_, -, -, -, -, rfl⟩ := ComputeCache.lookUp_value found
      exact inv.congr rfl rfl (view_setCall Call.open? unmade rfl)
  | joined unmade found =>
      obtain ⟨-, rfl⟩ := ComputeCache.lookUp_running found
      exact inv.congr rfl rfl (view_setCall Call.open? unmade rfl)
  | owned unmade found => exact inv.owned unmade found
  | finish o running => exact inv.congr rfl rfl (view_setCall Call.open? running rfl)
  | settle now ended => exact inv.settle hnum now ended
  | tell settled => exact inv.congr rfl rfl (view_setCall Call.open? settled rfl)
  | receive waiting _ => exact inv.congr rfl rfl (view_setCall Call.open? waiting rfl)
  | invalidate key => exact inv.congr rfl rfl fun _ => rfl
  | invalidateAll =>
      refine ⟨List.nodup_nil, ?_⟩
      intro key n
      refine ⟨fun h => absurd h List.not_mem_nil, ?_⟩
      rintro ⟨c, job, hopen, hgen, -, -⟩
      -- no computation is of the generation that begins
      have hle := hnum.generation_le (Call.job?_eq_some.mpr (Or.inl hopen))
      have heq : job.generation = s.cache.generation + 1 := hgen
      omega

/-! ## Values that are kept -/

theorem Step.maxSize_eq (step : Step told e s s') : s'.cache.maxSize = s.cache.maxSize := by
  cases step with
  | served _ found => obtain ⟨_, -, -, -, -, rfl⟩ := ComputeCache.lookUp_value found; rfl
  | joined _ found => obtain ⟨-, rfl⟩ := ComputeCache.lookUp_running found; rfl
  | owned _ found => obtain ⟨-, -, rfl⟩ := ComputeCache.lookUp_absent found; rfl
  | settle now _ => simp
  | _ => rfl

theorem Step.onePerKey (step : Step told e s s') (h : OnePerKey s.cache.entries) :
    OnePerKey s'.cache.entries := by
  cases step with
  | served _ found =>
      obtain ⟨f, -, rfl, -, -, rfl⟩ := ComputeCache.lookUp_value found
      exact h.without_append f
  | joined _ found =>
      obtain ⟨-, rfl⟩ := ComputeCache.lookUp_running found
      exact h.sublist (ComputeCache.without_sublist _ _)
  | owned _ found =>
      obtain ⟨-, -, rfl⟩ := ComputeCache.lookUp_absent found
      exact h.sublist (ComputeCache.without_sublist _ _)
  | settle now _ => exact h.settle
  | invalidate key => exact h.sublist (ComputeCache.without_sublist _ _)
  | invalidateAll => exact List.nodup_nil
  | _ => exact h

/-- A value that is kept was kept before, or is that of a computation of the present generation
whose end the cache is being told. Where anything is kept, no new generation has begun. -/
theorem Step.mem_entries (step : Step told e s s') {x : CacheEntry κ ν}
    (hx : x ∈ s'.cache.entries) :
    s'.cache.generation = s.cache.generation ∧
      (x ∈ s.cache.entries ∨
        ∃ c job, (s.call c).open? = some job ∧ (s'.call c).closed? = some (job, .value x.value) ∧
          job.key = x.key ∧ job.generation = s.cache.generation) := by
  cases step with
  | served _ found =>
      obtain ⟨f, hf, rfl, -, -, rfl⟩ := ComputeCache.lookUp_value found
      refine ⟨rfl, Or.inl ?_⟩
      rcases List.mem_append.mp hx with hold | hlast
      · exact (mem_without.mp hold).1
      · rw [List.mem_singleton.mp hlast]
        exact hf
  | joined _ found =>
      obtain ⟨-, rfl⟩ := ComputeCache.lookUp_running found
      exact ⟨rfl, Or.inl (mem_without.mp hx).1⟩
  | owned _ found =>
      obtain ⟨-, -, rfl⟩ := ComputeCache.lookUp_absent found
      exact ⟨rfl, Or.inl (mem_without.mp hx).1⟩
  | @settle _ c job o now ended =>
      refine ⟨by simp, ?_⟩
      rcases ComputeCache.mem_settle hx with hold | ⟨hkey, rfl, hgen⟩
      · exact Or.inl hold
      · refine Or.inr ⟨c, job, by rw [ended]; rfl, ?_, hkey.symm, hgen⟩
        rw [setCall_call_self]
        rfl
  | invalidate key => exact ⟨rfl, Or.inl (mem_without.mp hx).1⟩
  | invalidateAll => exact absurd hx List.not_mem_nil
  | _ => exact ⟨rfl, Or.inl hx⟩

/-- A computation that can be joined could be joined before, or begins now, where no value of its
key is kept. -/
theorem Step.mem_pending (step : Step told e s s') {key : κ} {n : Nat}
    (h : (key, n) ∈ s'.cache.pending) :
    (key, n) ∈ s.cache.pending ∨ ∀ x ∈ s'.cache.entries, x.key ≠ key := by
  cases step with
  | served _ found => obtain ⟨_, -, -, -, -, rfl⟩ := ComputeCache.lookUp_value found; exact Or.inl h
  | joined _ found => obtain ⟨-, rfl⟩ := ComputeCache.lookUp_running found; exact Or.inl h
  | owned _ found =>
      obtain ⟨-, rfl, rfl⟩ := ComputeCache.lookUp_absent found
      rcases List.mem_cons.mp h with heq | hold
      · cases heq
        exact Or.inr fun x hx => (mem_without.mp hx).2
      · exact Or.inl hold
  | settle now _ =>
      rw [setCall_cache, ComputeCache.settle_pending, ComputeCache.mem_giveUp] at h
      exact Or.inl h.1
  | invalidateAll => exact absurd h List.not_mem_nil
  | _ => exact Or.inl h

theorem Kept.step (inv : Kept s) (htr : Tracked s) (htr' : Tracked s') (hnum' : Numbered s')
    (step : Step told e s s') : Kept s' where
  room := by
    rw [step.maxSize_eq]
    exact inv.room
  onePerKey := step.onePerKey inv.onePerKey
  source := by
    intro x hx
    obtain ⟨hgen, hold | ⟨c, job, -, hclosed, hkey, hjob⟩⟩ := step.mem_entries hx
    · obtain ⟨c, job, hclosed, hkey, hjob⟩ := inv.source hold
      exact ⟨c, job, step.stays lasting_closed? hclosed, hkey, hjob.trans hgen.symm⟩
    · exact ⟨c, job, hclosed, hkey, hjob.trans hgen.symm⟩
  apart := by
    intro x hx n hmem
    rcases step.mem_pending hmem with hold | hfree
    · obtain ⟨-, hkept | ⟨c, job, hopen, hclosed, hkey, hjob⟩⟩ := step.mem_entries hx
      · exact inv.apart hkept n hold
      · -- the computation that ends is the one that could be joined, and now it is closed
        have hown : (job.key, job.number) ∈ s.cache.pending :=
          htr.mem_pending.mpr ⟨c, job, hopen, hjob, rfl, rfl⟩
        rw [← hkey] at hold hmem
        obtain rfl := htr.number_eq hold hown
        obtain ⟨c', job', hopen', -, -, hnum⟩ := htr'.mem_pending.mp hmem
        have hjob' := Call.job?_eq_some.mpr (Or.inl hopen')
        obtain ⟨rfl, rfl⟩ := hnum'.job_eq hjob' (Call.job?_eq_some.mpr (Or.inr ⟨_, hclosed⟩)) hnum
        exact Call.not_closed?_of_open? hopen' hclosed
    · exact hfree x hx rfl

/-! ## Answers -/

/-- Only those who tell change what has been told. -/
theorem Step.told?_eq (step : Step told e s s') (h : ∀ c, e ≠ .tell c) :
    s'.answer = s.answer ∧ ∀ p, (s'.call p).told? = (s.call p).told? := by
  constructor
  · cases step with
    | @tell _ c _ _ _ => exact absurd rfl (h c)
    | _ => rfl
  · intro p
    rcases step.change p with heq | hchange
    · rw [heq]
    · exact hchange.told?_eq (h p)

omit [DecidableEq κ] in
/-- The answer of a computation is the one that its owner, and nobody else, tells. -/
theorem Answered.answer_tell (inv : Answered told s) (hnum : Numbered s) {c : ι}
    {job : Computation κ} {o : Outcome ν} (settled : s.call c = .owner job (.settled o)) {n : Nat}
    {a : Except ComputationFault ν} :
    Function.update s.answer job.number (some (o.forJoined (told job.key))) n = some a ↔
      ∃ p job' o', ((s.setCall c (.owner job (.told o))).call p).told? = some (job', o') ∧
        job'.number = n ∧ a = o'.forJoined (told job'.key) := by
  have hjob : (s.call c).job? = some job := by rw [settled]; rfl
  have hself : ((s.setCall c (.owner job (.told o))).call c).told? = some (job, o) := by
    rw [setCall_call_self]
    rfl
  -- every other call has told what it had told before
  have hother : ∀ {p : ι} {q : Computation κ × Outcome ν}, p ≠ c →
      (((s.setCall c (.owner job (.told o))).call p).told? = some q ↔ (s.call p).told? = some q) := by
    intro p q hp
    rw [setCall_call_of_ne hp]
  rcases eq_or_ne n job.number with rfl | hne
  · rw [Function.update_self, Option.some.injEq]
    constructor
    · rintro rfl
      exact ⟨c, job, o, hself, rfl, rfl⟩
    · rintro ⟨p, job', o', htold, heq, rfl⟩
      rcases eq_or_ne p c with rfl | hp
      · rw [hself] at htold
        cases htold
        rfl
      · have hclosed := Call.closed?_of_told? ((hother hp).mp htold)
        have hjob' := Call.job?_eq_some.mpr (Or.inr ⟨_, hclosed⟩)
        exact absurd (hnum.number_inj hjob' hjob heq) hp
  · rw [Function.update_of_ne hne, inv.answer]
    constructor
    · rintro ⟨p, job', o', htold, heq, ha⟩
      have hp : p ≠ c := by
        rintro rfl
        rw [settled] at htold
        cases htold
      exact ⟨p, job', o', (hother hp).mpr htold, heq, ha⟩
    · rintro ⟨p, job', o', htold, heq, ha⟩
      have hp : p ≠ c := by
        rintro rfl
        rw [hself] at htold
        cases htold
        exact hne heq.symm
      exact ⟨p, job', o', (hother hp).mp htold, heq, ha⟩

theorem Answered.answer_step (inv : Answered told s) (hnum : Numbered s)
    (step : Step told e s s') {n : Nat} {a : Except ComputationFault ν} :
    s'.answer n = some a ↔
      ∃ p job o, (s'.call p).told? = some (job, o) ∧ job.number = n ∧
        a = o.forJoined (told job.key) := by
  by_cases htell : ∃ c, e = .tell c
  · obtain ⟨c, rfl⟩ := htell
    cases step with
    | tell settled => exact inv.answer_tell hnum settled
  · obtain ⟨hanswer, htold⟩ := step.told?_eq fun c he => htell ⟨c, he⟩
    rw [hanswer, inv.answer]
    simp only [htold]

/-- What a computation has answered stays its answer. -/
theorem Answered.answer_stays (inv : Answered told s) (hnum : Numbered s)
    (step : Step told e s s') {n : Nat} {a : Except ComputationFault ν}
    (h : s.answer n = some a) : s'.answer n = some a := by
  obtain ⟨p, job, o, htold, hn, ha⟩ := inv.answer.mp h
  exact (inv.answer_step hnum step).mpr ⟨p, job, o, step.stays lasting_told? htold, hn, ha⟩

theorem Answered.step (inv : Answered told s) (hnum : Numbered s) (htr : Tracked s)
    (hkept : Kept s) (step : Step told e s s') : Answered told s' where
  served := by
    intro c key v h
    have hold : (s.call c).served? = some (key, v) →
        ∃ p job, (s'.call p).closed? = some (job, .value v) ∧ job.key = key := by
      intro h
      obtain ⟨p, job, hclosed, hkey⟩ := inv.served h
      exact ⟨p, job, step.stays lasting_closed? hclosed, hkey⟩
    rcases step.change c with heq | hchange
    · exact hold (by rw [← heq]; exact h)
    · rcases hchange.served?_new h with hserved | ⟨now, cache, -, found⟩
      · exact hold hserved
      · obtain ⟨x, hx, rfl, rfl, -, -⟩ := ComputeCache.lookUp_value found
        obtain ⟨p, job, hclosed, hkey, -⟩ := hkept.source hx
        exact ⟨p, job, step.stays lasting_closed? hclosed, hkey⟩
  joined := by
    intro c key n h
    have hold : (s.call c).joined? = some (key, n) →
        ∃ p job, (s'.call p).job? = some job ∧ job.key = key ∧ job.number = n := by
      intro h
      obtain ⟨p, job, hjob, hkey, hn⟩ := inv.joined h
      exact ⟨p, job, step.stays lasting_job? hjob, hkey, hn⟩
    rcases step.change c with heq | hchange
    · exact hold (by rw [← heq]; exact h)
    · rcases hchange.joined?_new h with hjoined | ⟨now, cache, -, found⟩
      · exact hold hjoined
      · obtain ⟨hlookup, -⟩ := ComputeCache.lookUp_running found
        obtain ⟨p, job, hopen, -, hkey, hn⟩ := htr.mem_pending.mp (htr.lookup_eq_some.mp hlookup)
        exact ⟨p, job, step.stays lasting_job? (Call.job?_eq_some.mpr (Or.inl hopen)), hkey, hn⟩
  answer := inv.answer_step hnum step
  received := by
    intro c n a h
    refine inv.answer_stays hnum step ?_
    rcases step.change c with heq | hchange
    · exact inv.received (by rw [← heq]; exact h)
    · rcases hchange.received?_new h with hreceived | hanswer
      · exact inv.received hreceived
      · exact hanswer

/-! ## All together -/

theorem Sound.step (inv : Sound told s) (step : Step told e s s') : Sound told s' :=
  have hnum := inv.numbered.step step
  have htr := inv.tracked.step inv.numbered step
  ⟨hnum, htr, inv.kept.step inv.tracked htr hnum step,
    inv.answered.step inv.numbered inv.tracked inv.kept step⟩

/-- Whatever happens to a cache that was just made, in whatever order. -/
theorem Sound.run {es : List (Event ι κ ν)} (inv : Sound told s) (run : Run told es s s') :
    Sound told s' :=
  run.invariant (fun inv step => inv.step step) inv

end Conformity.Scene
