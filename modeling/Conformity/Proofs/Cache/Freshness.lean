import Conformity.Proofs.Cache.Source

/-!
# Nothing stale

Emptying a cache begins a new generation. Whoever calls the cache afterwards rests on a computation
of the new generation or of a later one (`Scene.Sound.asked_generation`), and every value that is
kept is of the present generation, while all computations that were begun before are of older ones.
So no value that was computed across the emptying reaches anybody who asks later, and the late end
of such a computation leaves the cache as it is (`Scene.nothing_stale`).
-/

namespace Conformity.Scene

variable {ι κ ν : Type}

/-- Among the events is a call for the key, and the end of its computation with the value. -/
def ComputedIn (es : List (Event ι κ ν)) (key : κ) (v : ν) : Prop :=
  ∃ p now, .ask p key now ∈ es ∧ .finish p (.value v) ∈ es

/-- A computation was begun in a scene or before. -/
def Begun (s : Scene ι κ ν) (job : Computation κ) : Prop := ∃ p, (s.call p).job? = some job

variable [DecidableEq ι] [DecidableEq κ]

/-- What holds after a run `es` that follows the emptying of the cache of a scene `s`. -/
structure Fresh (told : κ → String) (s : Scene ι κ ν) (es : List (Event ι κ ν)) (s' : Scene ι κ ν) :
    Prop where
  /-- Who asks after the emptying is given only what was computed from the beginning after it, -/
  replies : ∀ {c : ι} {key : κ} {now : Int} {v : ν}, .ask c key now ∈ es →
    s'.reply? told c = some (.value v) → ComputedIn es key v
  /-- and so is who peeks. -/
  peeks : ∀ {key : κ} {now : Int} {v : ν}, s'.cache.peek now key = some v → ComputedIn es key v
  /-- No call joins, or is served by, a computation that was begun before. -/
  rests : ∀ {c : ι} {key : κ} {now : Int}, .ask c key now ∈ es →
    ∃ job, RestsOn s' c job ∧ job.key = key ∧ ¬ Begun s job
  /-- No value of a computation that was begun before is kept. -/
  kept : ∀ {x : CacheEntry κ ν}, x ∈ s'.cache.entries →
    ∃ p job, (s'.call p).closed? = some (job, .value x.value) ∧ job.key = x.key ∧ ¬ Begun s job
  /-- The end of a computation that was begun before changes nothing in the cache. -/
  late : ∀ {p : ι} {job : Computation κ} {now : Int} {t : Scene ι κ ν},
    (s.call p).job? = some job → Step told (.settle p now) s' t → t.cache = s'.cache
  /-- No end of a computation keeps others from joining another one. -/
  newer : ∀ {p : ι} {job : Computation κ} {now : Int} {t : Scene ι κ ν} {key : κ} {n : Nat},
    (s'.call p).job? = some job → Step told (.settle p now) s' t → n ≠ job.number →
    s'.cache.pending.lookup key = some n → t.cache.pending.lookup key = some n

variable {told : κ → String} {s s' : Scene ι κ ν} {es : List (Event ι κ ν)}

/-! ## What a run contains -/

/-- Who owns a computation owned it before, or asked for its key in the run. -/
theorem Run.job?_asked (run : Run told es s s') {p : ι} {job : Computation κ}
    (h : (s'.call p).job? = some job) :
    (s.call p).job? = some job ∨ ∃ now, .ask p job.key now ∈ es := by
  induction run with
  | nil => exact Or.inl h
  | cons step _ ih =>
      rcases ih h with hmid | ⟨now, hmem⟩
      · rcases step.job?_cases hmid with hold | ⟨key, now, rfl, rfl, -, -⟩
        · exact Or.inl hold
        · exact Or.inr ⟨now, List.mem_cons_self⟩
      · exact Or.inr ⟨now, List.mem_cons_of_mem _ hmem⟩

/-- What has ended had ended before, or ends in the run. -/
theorem Run.ended?_finish (run : Run told es s s') {p : ι} {job : Computation κ} {o : Outcome ν}
    (h : (s'.call p).ended? = some (job, o)) :
    (s.call p).ended? = some (job, o) ∨ .finish p o ∈ es := by
  induction run with
  | nil => exact Or.inl h
  | @cons e es s s₁ s₂ step _ ih =>
      rcases ih h with hmid | hmem
      · rcases step.change p with heq | hchange
        · exact Or.inl (by rw [← heq]; exact hmid)
        · rcases hchange.ended?_new hmid with hold | ⟨rfl, -⟩
          · exact Or.inl hold
          · exact Or.inr List.mem_cons_self
      · exact Or.inr (List.mem_cons_of_mem _ hmem)

/-- A value that was not computed before is computed in the run. -/
theorem Run.computedIn (run : Run told es s s') {p : ι} {job : Computation κ} {v : ν}
    (h : (s'.call p).closed? = some (job, .value v)) (hnew : ¬ Begun s job) :
    ComputedIn es job.key v := by
  have hended := Call.ended?_of_closed? h
  rcases run.job?_asked (Call.job?_of_ended? hended) with hold | ⟨now, hask⟩
  · exact absurd ⟨p, hold⟩ hnew
  · rcases run.ended?_finish hended with hold | hfinish
    · exact absurd ⟨p, Call.job?_of_ended? hold⟩ hnew
    · exact ⟨p, now, hask, hfinish⟩

/-! ## Generations -/

theorem Run.generation_le (run : Run told es s s') : s.cache.generation ≤ s'.cache.generation :=
  run.invariant (P := fun t => s.cache.generation ≤ t.cache.generation)
    (fun h step => Nat.le_trans h step.generation_le) (Nat.le_refl _)

/-- Who asks in a run rests on a computation of no older generation. -/
theorem Sound.asked_generation (inv : Sound told s) (run : Run told es s s') {c : ι} {key : κ}
    {now : Int} (hask : .ask c key now ∈ es) :
    ∃ job, RestsOn s' c job ∧ job.key = key ∧ s.cache.generation ≤ job.generation := by
  induction run with
  | nil => cases hask
  | cons step run ih =>
      rcases List.mem_cons.mp hask with rfl | hmem
      · obtain ⟨job, ⟨hkey, hgen, -⟩, hrests⟩ := inv.ask step
        refine ⟨job, hrests.run run, hkey, ?_⟩
        rw [hgen]
        exact step.generation_le
      · obtain ⟨job, hrests, hkey, hgen⟩ := ih (inv.step step) hmem
        exact ⟨job, hrests, hkey, Nat.le_trans step.generation_le hgen⟩

omit [DecidableEq ι] in
/-- The end of a computation of an older generation changes nothing. -/
theorem Sound.settle_older (inv : Sound told s) {p : ι} {job : Computation κ} (o : Outcome ν)
    (now : Int) (hjob : (s.call p).job? = some job) (hgen : job.generation < s.cache.generation) :
    s.cache.settle now job o = s.cache := by
  rw [ComputeCache.settle_of_stale (Nat.ne_of_lt hgen)]
  have hpending : s.cache.pending.filter (fun q => q ≠ (job.key, job.number)) = s.cache.pending := by
    rw [List.filter_eq_self]
    rintro ⟨key, n⟩ hmem
    obtain ⟨q, job', hopen, hgen', -, rfl⟩ := inv.tracked.mem_pending.mp hmem
    rw [decide_eq_true_iff]
    intro heq
    obtain ⟨-, rfl⟩ := inv.numbered.job_eq (Call.job?_eq_some.mpr (Or.inl hopen)) hjob
      (congrArg Prod.snd heq)
    omega
  unfold ComputeCache.giveUp
  rw [hpending]

theorem Step.settle_cache {p : ι} {job : Computation κ} {now : Int}
    (step : Step told (.settle p now) s s') (hjob : (s.call p).job? = some job) :
    ∃ o, s'.cache = s.cache.settle now job o := by
  cases step with
  | @settle _ _ job' o _ ended =>
      rw [ended] at hjob
      cases hjob
      exact ⟨o, rfl⟩

/-- The end of a computation takes only that computation from those that can be joined. -/
theorem Sound.settle_newer (inv : Sound told s) {p : ι} {job : Computation κ} {now : Int}
    (hjob : (s.call p).job? = some job) (step : Step told (.settle p now) s s') {key : κ} {n : Nat}
    (hn : n ≠ job.number) (h : s.cache.pending.lookup key = some n) :
    s'.cache.pending.lookup key = some n := by
  obtain ⟨o, hcache⟩ := step.settle_cache hjob
  rw [(inv.step step).tracked.lookup_eq_some, hcache, ComputeCache.settle_pending,
    ComputeCache.mem_giveUp]
  exact ⟨inv.tracked.lookup_eq_some.mp h, fun heq => hn (congrArg Prod.snd heq)⟩

/-! ## After the emptying -/

/-- Nothing that was computed across the emptying of a cache is kept, joined or replied afterwards,
and the late end of such a computation disturbs no newer one. -/
theorem nothing_stale {name : String} {size lifetime : Int} {cache : ComputeCache κ ν}
    {bs : List (Event ι κ ν)} {s₁ : Scene ι κ ν}
    (made : ComputeCache.make? κ ν name size lifetime = some cache)
    (before : Run told bs (start (ι := ι) cache) s) (emptied : Step told .invalidateAll s s₁)
    (after : Run told es s₁ s') : Fresh told s es s' := by
  have inv := (Sound.start told made).run before
  have inv₁ := inv.step emptied
  have inv' := inv₁.run after
  have hgen₁ : s₁.cache.generation = s.cache.generation + 1 := emptied.generation_eq
  -- a computation of a generation after the emptying was not begun before it
  have hnew : ∀ {job : Computation κ}, s₁.cache.generation ≤ job.generation → ¬ Begun s job := by
    rintro job hgen ⟨p, hjob⟩
    have hle := inv.numbered.generation_le hjob
    omega
  have hcomputed : ∀ {p : ι} {job : Computation κ} {v : ν}, ¬ Begun s job →
      (s'.call p).closed? = some (job, .value v) → ComputedIn es job.key v := by
    intro p job v hold hclosed
    refine after.computedIn hclosed ?_
    rintro ⟨q, hq⟩
    cases emptied
    exact hold ⟨q, hq⟩
  have hkept : ∀ {x : CacheEntry κ ν}, x ∈ s'.cache.entries →
      ∃ p job, (s'.call p).closed? = some (job, .value x.value) ∧ job.key = x.key ∧
        ¬ Begun s job := by
    intro x hx
    obtain ⟨p, job, hclosed, hkey, hgen⟩ := inv'.kept.source hx
    exact ⟨p, job, hclosed, hkey, hnew (by rw [hgen]; exact after.generation_le)⟩
  refine ⟨?_, ?_, ?_, hkept, ?_, fun hjob step => inv'.settle_newer hjob step⟩
  · intro c key now v hask hreply
    obtain ⟨job, hrests, rfl, hgen⟩ := inv₁.asked_generation after hask
    obtain ⟨p, hclosed⟩ := hrests.closed?_of_reply? inv' hreply
    exact hcomputed (hnew hgen) hclosed
  · intro key now v hpeek
    obtain ⟨x, hx, rfl, rfl⟩ := ComputeCache.mem_of_peek hpeek
    obtain ⟨p, job, hclosed, hkey, hold⟩ := hkept hx
    rw [← hkey]
    exact hcomputed hold hclosed
  · intro c key now hask
    obtain ⟨job, hrests, hkey, hgen⟩ := inv₁.asked_generation after hask
    exact ⟨job, hrests, hkey, hnew hgen⟩
  · intro p job now t hjob step
    have hjob' : (s'.call p).job? = some job :=
      after.stays lasting_job? (emptied.stays lasting_job? hjob)
    obtain ⟨o, hcache⟩ := step.settle_cache hjob'
    rw [hcache]
    have hle := inv.numbered.generation_le hjob
    have hgen := after.generation_le
    exact inv'.settle_older o now hjob' (by omega)

/-- A computation that goes on while the cache is emptied, and one that is begun then. -/
def acrossEmptying : List (Event Nat Nat Nat) :=
  [.ask 1 7 11, .finish 0 (.value 5), .settle 0 12, .finish 1 (.value 6), .settle 1 13, .ask 2 7 14]

/-- The value of the second is kept, and served. -/
theorem nothing_stale_across : ∃ (cache : ComputeCache Nat Nat) (s s₁ s' : Scene Nat Nat Nat),
    ComputeCache.make? Nat Nat "results" 1 60 = some cache ∧
      Run Nat.repr [.ask 0 7 10] (start cache) s ∧ Step Nat.repr .invalidateAll s s₁ ∧
      Run Nat.repr acrossEmptying s₁ s' ∧ Fresh Nat.repr s acrossEmptying s' ∧
      s'.reply? Nat.repr 2 = some (.value 6) := by
  have made : ComputeCache.make? Nat Nat "results" 1 60 = some ⟨"results", 1, 60, [], [], 0, 0, 0⟩ :=
    rfl
  obtain ⟨s, s₁, s', before, emptied, after, hreply⟩ : ∃ s s₁ s' : Scene Nat Nat Nat,
      Run Nat.repr [.ask 0 7 10] (start ⟨"results", 1, 60, [], [], 0, 0, 0⟩) s ∧
        Step Nat.repr .invalidateAll s s₁ ∧ Run Nat.repr acrossEmptying s₁ s' ∧
        s'.reply? Nat.repr 2 = some (.value 6) :=
    ⟨_, _, _, .cons (.owned rfl rfl) .nil, .invalidateAll,
      .cons (.owned rfl rfl) <| .cons (.finish _ rfl) <| .cons (.settle _ rfl) <|
        .cons (.finish _ rfl) <| .cons (.settle _ rfl) <| .cons (.served rfl rfl) .nil, rfl⟩
  exact ⟨_, s, s₁, s', made, before, emptied, after, nothing_stale made before emptied after, hreply⟩

end Conformity.Scene
