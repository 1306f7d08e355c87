import Conformity.Proofs.Cache.Calm

/-!
# Callers share computations

What a cache promises to those who call it at the same time, whatever the order of their steps: for
each key there is at most one computation of the present generation, it is the one that others join,
and everyone who joins a computation is given what it ends with (`Scene.Shared`). Over a run that
leaves a key alone, the key is computed at most once and all calls for it get one value
(`Scene.SharedOver`).
-/

namespace Conformity.Scene

variable {ι κ ν : Type}

/-- A call that owns the computation with this number has not told those who joined it. -/
def Owes (s : Scene ι κ ν) (p : ι) (key : κ) (n : Nat) : Prop :=
  ∃ job, (s.call p).job? = some job ∧ job.key = key ∧ job.number = n ∧ (s.call p).told? = none

variable [DecidableEq ι] [DecidableEq κ]

/-- What holds of a cache and its callers at any time. -/
structure Shared (told : κ → String) (s : Scene ι κ ν) : Prop where
  /-- No two open computations of the present generation are for one key. -/
  one_open : ∀ {c c' : ι} {job job' : Computation κ}, (s.call c).open? = some job →
    (s.call c').open? = some job' → job.generation = s.cache.generation →
    job'.generation = s.cache.generation → job.key = job'.key → c = c'
  /-- A call joins exactly the open computation of the present generation for its key. -/
  joins : ∀ {key : κ} {n : Nat}, s.cache.pending.lookup key = some n ↔
    ∃ c job, (s.call c).open? = some job ∧ job.generation = s.cache.generation ∧
      job.key = key ∧ job.number = n
  /-- No key has both a value that is kept and a computation that can be joined. -/
  apart : ∀ {key : κ}, (∃ x ∈ s.cache.entries, x.key = key) → s.cache.pending.lookup key = none
  /-- A call that waits without an answer waits for exactly one other call. -/
  owed : ∀ {c : ι} {key : κ} {n : Nat}, s.call c = .joined key n → s.answer n = none →
    ∃! p, Owes s p key n
  /-- The other call alone makes the answer, -/
  only_owner : ∀ {c p : ι} {key : κ} {n : Nat} {e : Event ι κ ν} {s' : Scene ι κ ν},
    s.call c = .joined key n → Owes s p key n → Step told e s s' → s'.answer n ≠ none → e = .tell p
  /-- it owes the answer until it makes it, -/
  owner_stays : ∀ {p : ι} {key : κ} {n : Nat} {e : Event ι κ ν} {s' : Scene ι κ ν},
    Owes s p key n → Step told e s s' → e = .tell p ∨ Owes s' p key n
  /-- and it can make it by its own steps, however its computation ends. -/
  owner_can : ∀ {c p : ι} {key : κ} {n : Nat}, s.call c = .joined key n → Owes s p key n →
    ∀ (o : Outcome ν) (now : Int), ∃ es s',
      (∀ e ∈ es, e = .finish p o ∨ e = .settle p now ∨ e = .tell p) ∧ Run told es s s' ∧ s'.answer n ≠ none
  /-- An answer is what the computation ended with, a value or a fault. -/
  answers : ∀ {n : Nat} {a : Except ComputationFault ν}, s.answer n = some a →
    ∃ p job o, (s.call p).told? = some (job, o) ∧ job.number = n ∧ a = o.forJoined (told job.key)
  /-- Who waits can take the answer, and replies it. -/
  receives : ∀ {c : ι} {key : κ} {n : Nat} {a : Except ComputationFault ν},
    s.call c = .joined key n → s.answer n = some a →
    ∃ s', Step told (.receive c) s s' ∧ s'.reply? told c = some (.ofAnswer a)
  /-- Nobody who joined replies anything else. -/
  received : ∀ {c : ι} {key : κ} {n : Nat} {r : Reply ν}, (s.call c).joined? = some (key, n) →
    s.reply? told c = some r → ∃ a, s.answer n = some a ∧ r = .ofAnswer a

/-- What holds of the calls for a key that are made in a run which leaves the key alone. -/
structure SharedOver (told : κ → String) (key : κ) (es : List (Event ι κ ν)) (s s' : Scene ι κ ν) :
    Prop where
  /-- The key is computed at most once. -/
  once : ∀ {c c' : ι} {now now' : Int}, .ask c key now ∈ es → .ask c' key now' ∈ es →
    ((s'.call c).job?).isSome → ((s'.call c').job?).isSome → c = c'
  /-- The calls reply one value, whenever they do. -/
  one_value : ∀ {c c' : ι} {now now' : Int} {v v' : ν} {fs : List (Event ι κ ν)} {s'' : Scene ι κ ν},
    .ask c key now ∈ es → .ask c' key now' ∈ es → Run told fs s' s'' →
    s''.reply? told c = some (.value v) → s''.reply? told c' = some (.value v') → v = v'
  /-- What a call replies in the run is a value, unless it joined a computation that had failed
  before the run. -/
  value : ∀ {c : ι} {now : Int} {r : Reply ν}, .ask c key now ∈ es → s'.reply? told c = some r →
    (∃ v, r = .value v) ∨
      ∃ old, (s'.call c).joined? = some (key, old.number) ∧ old.key = key ∧ Failed s old

variable {told : κ → String} {s s' : Scene ι κ ν} {es : List (Event ι κ ν)} {key : κ}

/-! ## At any time -/

omit [DecidableEq ι] [DecidableEq κ] in
/-- Who owes an answer has not made it. -/
theorem Owes.answer_eq_none (inv : Sound told s) {p : ι} {n : Nat} (h : Owes s p key n) :
    s.answer n = none := by
  obtain ⟨job, hjob, -, rfl, htold⟩ := h
  rw [Option.eq_none_iff_forall_ne_some]
  intro a ha
  obtain ⟨q, job', o, htold', hnum, -⟩ := inv.answered.answer.mp ha
  have hjob' := Call.job?_of_ended? (Call.ended?_of_closed? (Call.closed?_of_told? htold'))
  obtain rfl := inv.numbered.number_inj hjob' hjob hnum
  rw [htold] at htold'
  cases htold'

omit [DecidableEq ι] [DecidableEq κ] in
/-- A call that waits without an answer waits for exactly one other call. -/
theorem Sound.owed (inv : Sound told s) {c : ι} {n : Nat} (hjoined : s.call c = .joined key n)
    (hnone : s.answer n = none) : ∃! p, Owes s p key n := by
  obtain ⟨p, job, hjob, hkey, hn⟩ := inv.answered.joined (c := c) (by rw [hjoined]; rfl)
  refine ⟨p, ⟨job, hjob, hkey, hn, ?_⟩, ?_⟩
  · rw [Option.eq_none_iff_forall_ne_some]
    rintro ⟨job', o⟩ htold
    have hanswer := inv.answered.answer.mpr ⟨p, job', o, htold, rfl, rfl⟩
    have hjob' := Call.job?_of_ended? (Call.ended?_of_closed? (Call.closed?_of_told? htold))
    rw [hjob] at hjob'
    cases hjob'
    rw [hn, hnone] at hanswer
    cases hanswer
  · rintro q ⟨job', hjob', -, hn', -⟩
    exact inv.numbered.number_inj hjob' hjob (hn'.trans hn.symm)

/-- An answer is made only by the owner of the computation. -/
theorem Owes.tell_eq (inv : Sound told s) {p : ι} {n : Nat} (h : Owes s p key n) {e : Event ι κ ν}
    (step : Step told e s s') (hanswer : s'.answer n ≠ none) : e = .tell p := by
  have hnone := h.answer_eq_none inv
  obtain ⟨job, hjob, -, rfl, -⟩ := h
  by_cases htell : ∃ c, e = .tell c
  · obtain ⟨c, rfl⟩ := htell
    cases step with
    | @tell _ _ job' o settled =>
        have hjob' : (s.call c).job? = some job' := by rw [settled]; rfl
        by_cases hn : job.number = job'.number
        · rw [inv.numbered.number_inj hjob hjob' hn]
        · have hupdate : Function.update s.answer job'.number _ job.number ≠ none := hanswer
          rw [Function.update_of_ne hn] at hupdate
          exact absurd hnone hupdate
  · obtain ⟨heq, -⟩ := step.told?_eq fun c he => htell ⟨c, he⟩
    rw [heq] at hanswer
    exact absurd hnone hanswer

theorem Owes.step {p : ι} {n : Nat} (h : Owes s p key n) {e : Event ι κ ν}
    (step : Step told e s s') : e = .tell p ∨ Owes s' p key n := by
  obtain ⟨job, hjob, hkey, hn, htold⟩ := h
  rw [or_iff_not_imp_left]
  intro he
  refine ⟨job, step.stays lasting_job? hjob, hkey, hn, ?_⟩
  rcases step.change p with heq | hchange
  · rw [heq, htold]
  · rw [hchange.told?_eq he, htold]

/-- Who owes an answer can make it. -/
theorem Owes.can {p : ι} {n : Nat} (h : Owes s p key n) (o : Outcome ν) (now : Int) :
    ∃ es s', (∀ e ∈ es, e = .finish p o ∨ e = .settle p now ∨ e = .tell p) ∧
      Run told es s s' ∧ s'.answer n ≠ none := by
  obtain ⟨job, hjob, -, rfl, htold⟩ := h
  obtain ⟨progress, heq⟩ := Call.eq_owner hjob
  cases progress with
  | running =>
      obtain ⟨s', run, -, -, hanswer⟩ := finish_run told o now heq
      exact ⟨_, s', by simp, run, by simp [hanswer]⟩
  | ended o' =>
      obtain ⟨s', run, -, -, hanswer⟩ := settle_run told now heq
      exact ⟨_, s', by simp, run, by simp [hanswer]⟩
  | settled o' =>
      obtain ⟨s', run, -, -, hanswer⟩ := tell_run told heq
      exact ⟨_, s', by simp, run, by simp [hanswer]⟩
  | told o' =>
      rw [heq] at htold
      cases htold

omit [DecidableEq ι] [DecidableEq κ] in
/-- What a call that joined replies is the answer of the computation. -/
theorem Sound.received (inv : Sound told s) {c : ι} {n : Nat} {r : Reply ν}
    (hjoined : (s.call c).joined? = some (key, n)) (hreply : s.reply? told c = some r) :
    ∃ a, s.answer n = some a ∧ r = .ofAnswer a := by
  unfold reply? at hreply
  split at hreply
  · next heq => rw [heq] at hjoined; cases hjoined
  · next a heq =>
    rw [heq] at hjoined
    cases hjoined
    cases hreply
    exact ⟨a, inv.answered.received (by rw [heq]; rfl), rfl⟩
  · next heq => rw [heq] at hjoined; cases hjoined
  · cases hreply

theorem Sound.shared (inv : Sound told s) : Shared told s where
  one_open := by
    intro c c' job job' hopen hopen' hgen hgen' hkey
    have hmem := inv.tracked.mem_pending.mpr ⟨c, job, hopen, hgen, hkey, rfl⟩
    have hmem' := inv.tracked.mem_pending.mpr ⟨c', job', hopen', hgen', rfl, rfl⟩
    exact inv.numbered.number_inj (Call.job?_eq_some.mpr (Or.inl hopen))
      (Call.job?_eq_some.mpr (Or.inl hopen')) (inv.tracked.number_eq hmem hmem')
  joins := inv.tracked.lookup_eq_some.trans inv.tracked.mem_pending
  apart := by
    rintro key ⟨x, hx, rfl⟩
    exact inv.tracked.lookup_eq_none.mpr (inv.kept.apart hx)
  owed := inv.owed
  only_owner := fun _ howes step hanswer => howes.tell_eq inv step hanswer
  owner_stays := fun howes step => howes.step step
  owner_can := fun _ howes o now => howes.can o now
  answers := inv.answered.answer.mp
  receives := by
    intro c key n a hjoined hanswer
    refine ⟨_, .receive hjoined hanswer, ?_⟩
    unfold reply?
    rw [setCall_call_self]
  received := inv.received

/-! ## Over a run that leaves a key alone -/

omit [DecidableEq ι] [DecidableEq κ] in
/-- A call that rests on a computation which has not failed replies a value. -/
theorem RestsOn.reply_value (inv : Sound told s) {c : ι} {job : Computation κ} {r : Reply ν}
    (h : RestsOn s c job) (hgood : ¬ Failed s job) (hreply : s.reply? told c = some r) :
    ∃ v, r = .value v := by
  obtain ⟨p, o, hclosed, hvalue⟩ := h.reply inv hreply
  by_contra hnone
  refine hgood ⟨p, o, Call.ended?_of_closed? hclosed, ?_⟩
  intro v ho
  exact hnone ⟨v, (hvalue v).mpr ho⟩

omit [DecidableEq ι] [DecidableEq κ] in
/-- A computation that has failed gives nobody a value. -/
theorem Failed.reply_ne (inv : Sound told s) {c : ι} {job : Computation κ} {v : ν}
    (h : Failed s job) (hjoined : (s.call c).joined? = some (job.key, job.number)) :
    s.reply? told c ≠ some (.value v) := by
  intro hreply
  obtain ⟨p, o, hended, hfail⟩ := h
  have hjob := Call.job?_of_ended? hended
  have hrests : RestsOn s c job := Or.inr (Or.inl ⟨hjoined, p, hjob⟩)
  obtain ⟨q, hclosed⟩ := hrests.closed?_of_reply? inv hreply
  obtain ⟨rfl, -⟩ := inv.numbered.job_eq hjob (Call.job?_eq_some.mpr (Or.inr ⟨_, hclosed⟩)) rfl
  rw [Call.ended?_of_closed? hclosed] at hended
  cases hended
  exact hfail v rfl

theorem Calm.shared (inv : Sound told s) (calm : Calm told key es s s') :
    SharedOver told key es s s' := by
  obtain ⟨job, hasked⟩ := calm.asked inv
  have inv' := inv.run calm.run
  -- a call that computes rests on the computation of the run, for it has joined none
  have howner : ∀ {c : ι} {now : Int}, .ask c key now ∈ es → ((s'.call c).job?).isSome →
      (s'.call c).job? = some job := by
    intro c now hask hown
    obtain ⟨j, hj⟩ := Option.isSome_iff_exists.mp hown
    rcases hasked hask with ⟨hrests, -⟩ | ⟨old, hjoined, -, -⟩
    · rw [hj, hrests.own_eq hj]
    · obtain ⟨progress, heq⟩ := Call.eq_owner hj
      rw [heq] at hjoined
      cases hjoined
  -- a call that replies a value rests on the computation of the run, for those that failed give none
  have hvalue : ∀ {c : ι} {now : Int} {v : ν} {fs : List (Event ι κ ν)} {s'' : Scene ι κ ν},
      .ask c key now ∈ es → Run told fs s' s'' → s''.reply? told c = some (.value v) →
      RestsOn s'' c job := by
    intro c now v fs s'' hask run hreply
    rcases hasked hask with ⟨hrests, -⟩ | ⟨old, hjoined, rfl, p, o, hended, hfail⟩
    · exact hrests.run run
    · have hended' := run.stays lasting_ended? (calm.run.stays lasting_ended? hended)
      have hfailed : Failed s'' old := ⟨p, o, hended', hfail⟩
      exact absurd hreply
        (hfailed.reply_ne (inv'.run run) (run.stays lasting_joined? hjoined))
  refine ⟨?_, ?_, ?_⟩
  · intro c c' now now' hask hask' hown hown'
    exact inv'.numbered.number_inj (howner hask hown) (howner hask' hown') rfl
  · intro c c' now now' v v' fs s'' hask hask' run hreply hreply'
    exact (hvalue hask run hreply).reply?_eq (inv'.run run) (hvalue hask' run hreply') hreply hreply'
  · intro c now r hask hreply
    rcases hasked hask with ⟨hrests, hgood⟩ | hold
    · exact Or.inl (hrests.reply_value inv' hgood hreply)
    · exact Or.inr hold

/-- Callers of a cache share computations, whatever the order of their steps: at any time, and over
any run that leaves a key alone. -/
theorem computations_shared {name : String} {size lifetime : Int} {cache : ComputeCache κ ν}
    (made : ComputeCache.make? κ ν name size lifetime = some cache)
    (run : Run told es (start (ι := ι) cache) s) :
    Shared told s ∧ ∀ {key : κ} {fs : List (Event ι κ ν)} {s' : Scene ι κ ν},
      Calm told key fs s s' → SharedOver told key fs s s' :=
  have inv := (Sound.start told made).run run
  ⟨inv.shared, fun calm => calm.shared inv⟩

/-- Two calls for a key, of which the second joins the computation of the first. -/
def twoCalls (key : κ) (v : ν) : List (Event Nat κ ν) :=
  [.ask 0 key 10, .ask 1 key 10, .finish 0 (.value v), .settle 0 12, .tell 0, .receive 1]

/-- The second call gets the value that the first computes. -/
theorem twoCalls_calm (told : κ → String) (key : κ) (v : ν) : ∃ s,
    Calm told key (twoCalls key v) (start ⟨"results", 1, 60, [], [], 0, 0, 0⟩) s ∧
      s.reply? told 0 = some (.value v) ∧ s.reply? told 1 = some (.value v) := by
  have unkept : ∀ {P : Prop}, (∃ x ∈ ([] : List (CacheEntry κ ν)), x.key = key) → P :=
    fun ⟨_, hx, _⟩ => nomatch hx
  have joins : ComputeCache.lookUp 10 key ⟨"results", 1, 60, [], [(key, 0)], 0, 0, 1⟩ =
      (Found.running 0, (⟨"results", 1, 60, [], [(key, 0)], 0, 0, 1⟩ : ComputeCache κ ν)) := by
    simp [ComputeCache.lookUp, ComputeCache.lookUp.miss, ComputeCache.kept?]
  refine ⟨_, .cons (.owned rfl rfl) ⟨unkept, by simp, by simp⟩ <|
    .cons (.joined rfl joins) ⟨unkept, by simp, by simp⟩ <|
    .cons (.finish _ rfl) ⟨unkept, by simp, ?_⟩ <|
    .cons (.settle _ rfl) ⟨unkept, by simp, by simp⟩ <|
    .cons (.tell rfl) ⟨id, by simp, by simp⟩ <|
    .cons (.receive rfl rfl) ⟨id, by simp, by simp⟩ .nil, rfl, rfl⟩
  intro c job o heq _ _
  cases heq
  exact ⟨v, rfl⟩

theorem computations_shared_by_two : ∃ (cache : ComputeCache Nat Nat) (s : Scene Nat Nat Nat),
    ComputeCache.make? Nat Nat "results" 1 60 = some cache ∧
      Run Nat.repr (twoCalls 7 5) (start cache) s ∧ Shared Nat.repr s ∧
      SharedOver Nat.repr 7 (twoCalls 7 5) (start cache) s ∧
      s.reply? Nat.repr 0 = some (.value 5) ∧ s.reply? Nat.repr 1 = some (.value 5) := by
  obtain ⟨s, calm, h₀, h₁⟩ := twoCalls_calm Nat.repr 7 5
  have made : ComputeCache.make? Nat Nat "results" 1 60 = some ⟨"results", 1, 60, [], [], 0, 0, 0⟩ :=
    rfl
  exact ⟨_, s, made, calm.run, (computations_shared made calm.run).1,
    (computations_shared made .nil).2 calm, h₀, h₁⟩

end Conformity.Scene
