import Conformity.Proofs.Cache.Invariant

/-!
# The computation that a call rests on

Every call that was made rests on one computation: its own, the one that it joined, or the one whose
value had been kept when it looked its key up (`Scene.RestsOn`). What a call replies is a value only
if its computation ended with that value (`RestsOn.closed?_of_reply?`), so two calls that rest on
one computation reply no two values. Both theorems about callers, that they share computations and
that they get nothing stale, speak of the computation that a call rests on.
-/

namespace Conformity.Scene

variable {ι κ ν : Type} {told : κ → String} {s s' : Scene ι κ ν}

/-- A call rests on a computation. -/
def RestsOn (s : Scene ι κ ν) (c : ι) (job : Computation κ) : Prop :=
  (s.call c).job? = some job ∨
    ((s.call c).joined? = some (job.key, job.number) ∧ ∃ p, (s.call p).job? = some job) ∨
    ∃ v p, (s.call c).served? = some (job.key, v) ∧ (s.call p).closed? = some (job, .value v)

/-- A call that owns a computation rests on no other. -/
theorem RestsOn.own_eq {c : ι} {job job' : Computation κ} (h : RestsOn s c job)
    (hown : (s.call c).job? = some job') : job' = job := by
  obtain ⟨progress, heq⟩ := Call.eq_owner hown
  unfold RestsOn at h
  rw [heq] at h
  rcases h with hown' | ⟨hjoined, -⟩ | ⟨v, p, hserved, -⟩
  · exact Option.some.inj hown'
  · cases hjoined
  · cases hserved

/-- A computation ends in one way. -/
theorem Numbered.outcome_eq (inv : Numbered s) {p q : ι} {job : Computation κ} {o o' : Outcome ν}
    (hp : (s.call p).closed? = some (job, o)) (hq : (s.call q).closed? = some (job, o')) :
    o = o' := by
  obtain ⟨rfl, -⟩ := inv.job_eq (Call.job?_eq_some.mpr (Or.inr ⟨_, hp⟩))
    (Call.job?_eq_some.mpr (Or.inr ⟨_, hq⟩)) rfl
  rw [hp] at hq
  cases hq
  rfl

/-- A call replies only when its computation has ended, and a value only if it is what the
computation ended with. -/
theorem RestsOn.reply (inv : Sound told s) {c : ι} {job : Computation κ} {r : Reply ν}
    (h : RestsOn s c job) (hreply : s.reply? told c = some r) :
    ∃ p o, (s.call p).closed? = some (job, o) ∧ ∀ v, r = .value v ↔ o = .value v := by
  unfold reply? at hreply
  rcases h with hown | ⟨hjoined, p, hp⟩ | ⟨w, p, hserved, hclosed⟩
  · split at hreply
    · next heq => rw [heq] at hown; cases hown
    · next heq => rw [heq] at hown; cases hown
    · next job' o heq =>
      rw [heq] at hown
      cases hown
      cases hreply
      exact ⟨c, o, by rw [heq]; rfl, fun v => Reply.ofOutcome_eq_value⟩
    · cases hreply
  · split at hreply
    · next heq => rw [heq] at hjoined; cases hjoined
    · next key n a heq =>
      rw [heq] at hjoined
      cases hjoined
      cases hreply
      -- the answer it took was made by the owner of the computation, whose number tells it
      have hanswer := inv.answered.received (c := c) (by rw [heq]; rfl)
      obtain ⟨q, job', o, htold, hnum, rfl⟩ := inv.answered.answer.mp hanswer
      have hclosed := Call.closed?_of_told? htold
      obtain ⟨rfl, rfl⟩ := inv.numbered.job_eq (Call.job?_eq_some.mpr (Or.inr ⟨_, hclosed⟩)) hp hnum
      exact ⟨q, o, hclosed, fun v => Reply.ofAnswer_forJoined_eq_value⟩
    · next heq => rw [heq] at hjoined; cases hjoined
    · cases hreply
  · split at hreply
    · next heq =>
      rw [heq] at hserved
      cases hserved
      cases hreply
      exact ⟨p, _, hclosed, fun v => by simp⟩
    · next heq => rw [heq] at hserved; cases hserved
    · next heq => rw [heq] at hserved; cases hserved
    · cases hreply

/-- A value that a call replies is the one that its computation ended with. -/
theorem RestsOn.closed?_of_reply? (inv : Sound told s) {c : ι} {job : Computation κ} {v : ν}
    (h : RestsOn s c job) (hreply : s.reply? told c = some (.value v)) :
    ∃ p, (s.call p).closed? = some (job, .value v) := by
  obtain ⟨p, o, hclosed, hvalue⟩ := h.reply inv hreply
  obtain rfl := (hvalue v).mp rfl
  exact ⟨p, hclosed⟩

/-- Every call that was made rests on a computation of its key. -/
theorem Sound.rests (inv : Sound told s) {c : ι} {key : κ} (h : (s.call c).key? = some key) :
    ∃ job, RestsOn s c job ∧ job.key = key := by
  have hjoined : ∀ {n : Nat}, (s.call c).joined? = some (key, n) →
      ∃ job, RestsOn s c job ∧ job.key = key := by
    intro n hjoined
    obtain ⟨p, job, hp, rfl, rfl⟩ := inv.answered.joined hjoined
    exact ⟨job, Or.inr (Or.inl ⟨hjoined, p, hp⟩), rfl⟩
  cases hc : s.call c with
  | unmade =>
      rw [hc] at h
      cases h
  | served k v =>
      rw [hc] at h
      cases h
      have hserved : (s.call c).served? = some (key, v) := by rw [hc]; rfl
      obtain ⟨p, job, hclosed, rfl⟩ := inv.answered.served hserved
      exact ⟨job, Or.inr (Or.inr ⟨v, p, hserved, hclosed⟩), rfl⟩
  | joined k n =>
      rw [hc] at h hjoined
      cases h
      exact hjoined rfl
  | received k n a =>
      rw [hc] at h hjoined
      cases h
      exact hjoined rfl
  | owner job progress =>
      rw [hc] at h
      cases h
      exact ⟨job, Or.inl (by rw [hc]; rfl), rfl⟩

/-- A call that has replied was made. -/
theorem exists_key?_of_reply? {c : ι} {r : Reply ν} (h : s.reply? told c = some r) :
    ∃ key, (s.call c).key? = some key := by
  unfold reply? at h
  split at h
  · next heq => exact ⟨_, by rw [heq]; rfl⟩
  · next heq => exact ⟨_, by rw [heq]; rfl⟩
  · next heq => exact ⟨_, by rw [heq]; rfl⟩
  · cases h

/-- A value that is replied is that of a computation of the key. -/
theorem Sound.reply_source (inv : Sound told s) {c : ι} {v : ν}
    (h : s.reply? told c = some (.value v)) :
    ∃ p job, (s.call c).key? = some job.key ∧ (s.call p).closed? = some (job, .value v) := by
  obtain ⟨key, hkey⟩ := exists_key?_of_reply? h
  obtain ⟨job, hrests, rfl⟩ := inv.rests hkey
  obtain ⟨p, hclosed⟩ := hrests.closed?_of_reply? inv h
  exact ⟨p, job, hkey, hclosed⟩

/-- Calls that rest on one computation reply no two values. -/
theorem RestsOn.reply?_eq (inv : Sound told s) {c c' : ι} {job : Computation κ} {v v' : ν}
    (h : RestsOn s c job) (h' : RestsOn s c' job) (hv : s.reply? told c = some (.value v))
    (hv' : s.reply? told c' = some (.value v')) : v = v' := by
  obtain ⟨p, hp⟩ := h.closed?_of_reply? inv hv
  obtain ⟨q, hq⟩ := h'.closed?_of_reply? inv hv'
  cases inv.numbered.outcome_eq hp hq
  rfl

variable [DecidableEq ι] [DecidableEq κ] {e : Event ι κ ν} {es : List (Event ι κ ν)}

/-- Who has asked for a key had asked for it before, or asks now. -/
theorem Step.key?_new (step : Step told e s s') {c : ι} {key : κ}
    (h : (s'.call c).key? = some key) :
    (s.call c).key? = some key ∨ ∃ now, e = .ask c key now := by
  rcases step.change c with heq | hchange
  · exact Or.inl (by rw [← heq]; exact h)
  · generalize s.call c = x at hchange ⊢
    generalize s'.call c = y at hchange h
    cases hchange with
    | served found =>
        cases h
        exact Or.inr ⟨_, rfl⟩
    | joined found =>
        cases h
        exact Or.inr ⟨_, rfl⟩
    | owned found =>
        obtain ⟨-, rfl, -⟩ := ComputeCache.lookUp_absent found
        cases h
        exact Or.inr ⟨_, rfl⟩
    | _ => exact Or.inl h

theorem RestsOn.step {c : ι} {job : Computation κ} (h : RestsOn s c job)
    (step : Step told e s s') : RestsOn s' c job := by
  rcases h with hown | ⟨hjoined, p, hp⟩ | ⟨v, p, hserved, hclosed⟩
  · exact Or.inl (step.stays lasting_job? hown)
  · exact Or.inr (Or.inl ⟨step.stays lasting_joined? hjoined, p, step.stays lasting_job? hp⟩)
  · exact Or.inr (Or.inr
      ⟨v, p, step.stays lasting_served? hserved, step.stays lasting_closed? hclosed⟩)

theorem RestsOn.run {c : ι} {job : Computation κ} (h : RestsOn s c job)
    (run : Run told es s s') : RestsOn s' c job :=
  run.invariant (P := fun s => RestsOn s c job) (fun h step => h.step step) h

/-! ## Where a key stands

A key stands for a computation while the computation can be joined, and while its value is kept. -/

/-- Calls for a key get what this computation gives. -/
def StandsFor (s : Scene ι κ ν) (key : κ) (job : Computation κ) : Prop :=
  job.key = key ∧ job.generation = s.cache.generation ∧
    (((key, job.number) ∈ s.cache.pending ∧ ∃ p, (s.call p).open? = some job) ∨
      ∃ x ∈ s.cache.entries, x.key = key ∧ ∃ p, (s.call p).closed? = some (job, .value x.value))

/-- A call that finds a value rests on the computation of which it is the value. -/
theorem Sound.ask_served (inv : Sound told s) {c : ι} {key : κ} {now : Int} {v : ν}
    {cache : ComputeCache κ ν} (unmade : s.call c = .unmade)
    (found : s.cache.lookUp now key = (.value v, cache)) :
    ∃ job, StandsFor ({ s with cache }.setCall c (.served key v)) key job ∧
      RestsOn ({ s with cache }.setCall c (.served key v)) c job := by
  have step : Step told (.ask c key now) s _ := .served unmade found
  obtain ⟨x, hx, rfl, rfl, -, rfl⟩ := ComputeCache.lookUp_value found
  obtain ⟨p, job, hclosed, hkey, hgen⟩ := inv.kept.source hx
  have hclosed' := step.stays lasting_closed? hclosed
  refine ⟨job, ⟨hkey, hgen, Or.inr ⟨x, ?_, rfl, p, hclosed'⟩⟩,
    Or.inr (Or.inr ⟨x.value, p, ?_, hclosed'⟩)⟩
  · simp
  · rw [setCall_call_self, hkey]
    rfl

/-- A call that finds a computation rests on it. -/
theorem Sound.ask_joined (inv : Sound told s) {c : ι} {key : κ} {now : Int} {n : Nat}
    {cache : ComputeCache κ ν} (unmade : s.call c = .unmade)
    (found : s.cache.lookUp now key = (.running n, cache)) :
    ∃ job, StandsFor ({ s with cache }.setCall c (.joined key n)) key job ∧
      RestsOn ({ s with cache }.setCall c (.joined key n)) c job := by
  obtain ⟨hlookup, rfl⟩ := ComputeCache.lookUp_running found
  have hmem := inv.tracked.lookup_eq_some.mp hlookup
  obtain ⟨p, job, hopen, hgen, hkey, rfl⟩ := inv.tracked.mem_pending.mp hmem
  have hp : p ≠ c := by
    rintro rfl
    rw [unmade] at hopen
    cases hopen
  rw [← setCall_call_of_ne hp { s with cache := _ } (.joined key job.number)] at hopen
  refine ⟨job, ⟨hkey, hgen, Or.inl ⟨hmem, p, hopen⟩⟩,
    Or.inr (Or.inl ⟨?_, p, Call.job?_eq_some.mpr (Or.inl hopen)⟩)⟩
  rw [setCall_call_self, hkey]
  rfl

/-- A call that begins a computation rests on it. -/
theorem ask_owned {c : ι} {key : κ} {now : Int} {job : Computation κ}
    {cache : ComputeCache κ ν} (found : s.cache.lookUp now key = (.absent job, cache)) :
    StandsFor ({ s with cache }.setCall c (.owner job .running)) key job ∧
      RestsOn ({ s with cache }.setCall c (.owner job .running)) c job := by
  obtain ⟨-, rfl, rfl⟩ := ComputeCache.lookUp_absent found
  refine ⟨⟨rfl, rfl, Or.inl ⟨List.mem_cons_self, c, ?_⟩⟩, Or.inl ?_⟩
  · rw [setCall_call_self]
    rfl
  · rw [setCall_call_self]
    rfl

/-- Every call rests on a computation that its key stands for from then on. -/
theorem Sound.ask (inv : Sound told s) {c : ι} {key : κ} {now : Int}
    (step : Step told (.ask c key now) s s') :
    ∃ job, StandsFor s' key job ∧ RestsOn s' c job := by
  cases step with
  | served unmade found => exact inv.ask_served unmade found
  | joined unmade found => exact inv.ask_joined unmade found
  | owned unmade found => exact ⟨_, ask_owned found⟩

end Conformity.Scene
