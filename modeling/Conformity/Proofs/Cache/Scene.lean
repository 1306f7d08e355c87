import Conformity.Cache.Basic
import Mathlib.Logic.Function.Basic

/-!
# Calls of one cache

Any number of callers ask one cache for values. A call looks its key up; it is then answered by a
value that was kept, or joins the computation that another call has begun, or owns a new
computation. The owner computes for as long as the computation takes, tells the cache how the
computation ended, and then tells those who joined.

What a call does while it holds the cache is one step here (`ComputeCache.lookUp` and
`ComputeCache.settle`), and so are the end of a computation, the moment in which those who joined
are told, and the moment in which one of them takes the answer. A computation begins with the
look-up that finds nothing. The steps of different calls come in any order, and clocks may show any
time.
-/

namespace Conformity

/-- How far a computation has come. -/
inductive Progress (ν : Type) where
  | running
  /-- It has ended, which the cache does not know. -/
  | ended (outcome : Outcome ν)
  /-- The cache knows how it ended, and those who joined do not. -/
  | settled (outcome : Outcome ν)
  /-- Those who joined know it, too. -/
  | told (outcome : Outcome ν)

/-- What a call answers. -/
inductive Reply (ν : Type) where
  | value (v : ν)
  /-- The computation has failed. -/
  | fault (f : ComputationFault)
  /-- The call itself was interrupted. -/
  | interrupted

namespace Reply

variable {ν : Type}

/-- The reply of a call that joined a computation. -/
def ofAnswer : Except ComputationFault ν → Reply ν
  | .ok v => value v
  | .error f => fault f

/-- The reply of a call whose own computation, for a key that is told as `key`, has ended. -/
def ofOutcome (key : String) : Outcome ν → Reply ν
  | .interrupted => interrupted
  | o => ofAnswer (o.forJoined key)

/-- Only a computation that ends with a value makes its owner reply one. -/
theorem ofOutcome_eq_value {key : String} {o : Outcome ν} {v : ν} :
    ofOutcome key o = value v ↔ o = .value v := by
  cases o <;> simp [ofOutcome, ofAnswer, Outcome.forJoined]

/-- Those who joined reply a value only if the computation ended with it. -/
theorem ofAnswer_forJoined_eq_value {key : String} {o : Outcome ν} {v : ν} :
    ofAnswer (o.forJoined key) = value v ↔ o = .value v := by
  cases o <;> simp [ofAnswer, Outcome.forJoined]

end Reply

/-- What a call is about. -/
inductive Call (κ ν : Type) where
  /-- It has not been made yet. -/
  | unmade
  /-- A value that was kept has answered it. -/
  | served (key : κ) (v : ν)
  /-- It waits for the computation with this number. -/
  | joined (key : κ) (number : Nat)
  /-- It was given this answer by the computation with this number. -/
  | received (key : κ) (number : Nat) (answer : Except ComputationFault ν)
  /-- It owns a computation that has come so far. -/
  | owner (job : Computation κ) (progress : Progress ν)

namespace Call

variable {κ ν : Type}

/-- The computation that a call owns. -/
def job? : Call κ ν → Option (Computation κ)
  | owner job _ => some job
  | _ => none

/-- The computation of a call while the cache does not know how it ends. -/
def open? : Call κ ν → Option (Computation κ)
  | owner job .running | owner job (.ended _) => some job
  | _ => none

/-- The computation of a call, and how it ended, once it has ended. -/
def ended? : Call κ ν → Option (Computation κ × Outcome ν)
  | owner job (.ended o) | owner job (.settled o) | owner job (.told o) => some (job, o)
  | _ => none

/-- The computation of a call, and how it ended, once the cache knows. -/
def closed? : Call κ ν → Option (Computation κ × Outcome ν)
  | owner job (.settled o) | owner job (.told o) => some (job, o)
  | _ => none

/-- The computation of a call, and how it ended, once those who joined know. -/
def told? : Call κ ν → Option (Computation κ × Outcome ν)
  | owner job (.told o) => some (job, o)
  | _ => none

/-- The key of a call that has joined a computation, and the number of the computation. -/
def joined? : Call κ ν → Option (κ × Nat)
  | joined key n | received key n _ => some (key, n)
  | _ => none

/-- What a call was given, and the number of the computation that gave it. -/
def received? : Call κ ν → Option (Nat × Except ComputationFault ν)
  | received _ n a => some (n, a)
  | _ => none

/-- The key of a call that a kept value has answered, and the value. -/
def served? : Call κ ν → Option (κ × ν)
  | served key v => some (key, v)
  | _ => none

/-- The key that a call asked for. -/
def key? : Call κ ν → Option κ
  | unmade => none
  | served key _ | joined key _ | received key _ _ => some key
  | owner job _ => some job.key

theorem eq_owner {x : Call κ ν} {job : Computation κ} (h : x.job? = some job) :
    ∃ progress, x = owner job progress := by
  cases x with
  | owner j p =>
      cases h
      exact ⟨p, rfl⟩
  | _ => cases h

/-- A computation is open or closed. -/
theorem job?_eq_some {x : Call κ ν} {job : Computation κ} :
    x.job? = some job ↔ x.open? = some job ∨ ∃ o, x.closed? = some (job, o) := by
  cases x with
  | owner j p => cases p <;> simp [Call.job?, open?, closed?]
  | _ => simp [Call.job?, open?, closed?]

theorem not_closed?_of_open? {x : Call κ ν} {job : Computation κ} {o : Outcome ν}
    (h : x.open? = some job) : x.closed? ≠ some (job, o) := by
  cases x with
  | owner j p => cases p <;> simp_all [open?, closed?]
  | _ => cases h

/-- Of a computation that the cache knows the end of, it is the end. -/
theorem ended?_of_closed? {x : Call κ ν} {p : Computation κ × Outcome ν}
    (h : x.closed? = some p) : x.ended? = some p := by
  cases x with
  | owner j q => cases q <;> first | exact h | cases h
  | _ => cases h

theorem job?_of_ended? {x : Call κ ν} {job : Computation κ} {o : Outcome ν}
    (h : x.ended? = some (job, o)) : x.job? = some job := by
  cases x with
  | owner j q => cases q <;> cases h <;> rfl
  | _ => cases h

/-- What those who joined know, the cache knows. -/
theorem closed?_of_told? {x : Call κ ν} {p : Computation κ × Outcome ν}
    (h : x.told? = some p) : x.closed? = some p := by
  cases x with
  | owner j q => cases q <;> first | exact h | cases h
  | _ => cases h

end Call

/-- A cache among its callers. -/
structure Scene (ι κ ν : Type) where
  cache : ComputeCache κ ν
  call : ι → Call κ ν
  /-- What the computations that are told about have answered, by number. -/
  answer : Nat → Option (Except ComputationFault ν)

/-- One thing that happens at once. -/
inductive Event (ι κ ν : Type) where
  /-- A call looks its key up. -/
  | ask (c : ι) (key : κ) (now : Int)
  /-- The computation of a call ends. -/
  | finish (c : ι) (outcome : Outcome ν)
  /-- The owner of a computation tells the cache. -/
  | settle (c : ι) (now : Int)
  /-- The owner of a computation tells those who joined, and replies. -/
  | tell (c : ι)
  /-- A call that joined takes the answer, and replies. -/
  | receive (c : ι)
  | invalidate (key : κ)
  | invalidateAll

namespace Scene

variable {ι κ ν : Type}

/-- A cache that nobody has called. -/
def start (cache : ComputeCache κ ν) : Scene ι κ ν := ⟨cache, fun _ => .unmade, fun _ => none⟩

/-- What a call has replied. -/
def reply? (told : κ → String) (s : Scene ι κ ν) (c : ι) : Option (Reply ν) :=
  match s.call c with
  | .served _ v => some (.value v)
  | .received _ _ answer => some (.ofAnswer answer)
  | .owner job (.told o) => some (.ofOutcome (told job.key) o)
  | _ => none

variable [DecidableEq ι]

/-- A scene in which a call has changed. -/
def setCall (s : Scene ι κ ν) (c : ι) (x : Call κ ν) : Scene ι κ ν :=
  { s with call := Function.update s.call c x }

@[simp] theorem setCall_cache (s : Scene ι κ ν) (c : ι) (x : Call κ ν) :
    (s.setCall c x).cache = s.cache := rfl

@[simp] theorem setCall_call_self (s : Scene ι κ ν) (c : ι) (x : Call κ ν) :
    (s.setCall c x).call c = x :=
  Function.update_self ..

theorem setCall_call_of_ne {c c' : ι} (h : c' ≠ c) (s : Scene ι κ ν) (x : Call κ ν) :
    (s.setCall c x).call c' = s.call c' :=
  Function.update_of_ne h ..

/-- What a change does not show of the call that changed, it shows of no call. -/
theorem view_setCall {β : Type} (f : Call κ ν → β) {s : Scene ι κ ν} {c : ι} {x y : Call κ ν}
    (hc : s.call c = y) (hf : f x = f y) (c' : ι) : f ((s.setCall c x).call c') = f (s.call c') := by
  rcases eq_or_ne c' c with rfl | hne
  · rw [setCall_call_self, hf, hc]
  · rw [setCall_call_of_ne hne]

variable [DecidableEq κ]

/-- What one event does. Messages tell keys by `told`. -/
inductive Step (told : κ → String) : Event ι κ ν → Scene ι κ ν → Scene ι κ ν → Prop
  /-- The look-up finds a value. -/
  | served {s : Scene ι κ ν} {c : ι} {key : κ} {now : Int} {v : ν} {cache : ComputeCache κ ν}
      (unmade : s.call c = .unmade) (found : s.cache.lookUp now key = (.value v, cache)) :
      Step told (.ask c key now) s ({ s with cache }.setCall c (.served key v))
  /-- The look-up finds a computation that runs. -/
  | joined {s : Scene ι κ ν} {c : ι} {key : κ} {now : Int} {n : Nat} {cache : ComputeCache κ ν}
      (unmade : s.call c = .unmade) (found : s.cache.lookUp now key = (.running n, cache)) :
      Step told (.ask c key now) s ({ s with cache }.setCall c (.joined key n))
  /-- The look-up finds nothing, and a computation begins. -/
  | owned {s : Scene ι κ ν} {c : ι} {key : κ} {now : Int} {job : Computation κ}
      {cache : ComputeCache κ ν}
      (unmade : s.call c = .unmade) (found : s.cache.lookUp now key = (.absent job, cache)) :
      Step told (.ask c key now) s ({ s with cache }.setCall c (.owner job .running))
  | finish {s : Scene ι κ ν} {c : ι} {job : Computation κ} (o : Outcome ν)
      (running : s.call c = .owner job .running) :
      Step told (.finish c o) s (s.setCall c (.owner job (.ended o)))
  | settle {s : Scene ι κ ν} {c : ι} {job : Computation κ} {o : Outcome ν} (now : Int)
      (ended : s.call c = .owner job (.ended o)) :
      Step told (.settle c now) s
        ({ s with cache := s.cache.settle now job o }.setCall c (.owner job (.settled o)))
  | tell {s : Scene ι κ ν} {c : ι} {job : Computation κ} {o : Outcome ν}
      (settled : s.call c = .owner job (.settled o)) :
      Step told (.tell c) s
        ({ s with
          answer := Function.update s.answer job.number (some (o.forJoined (told job.key)))
          }.setCall c (.owner job (.told o)))
  | receive {s : Scene ι κ ν} {c : ι} {key : κ} {n : Nat} {a : Except ComputationFault ν}
      (waiting : s.call c = .joined key n) (told_of : s.answer n = some a) :
      Step told (.receive c) s (s.setCall c (.received key n a))
  | invalidate {s : Scene ι κ ν} (key : κ) :
      Step told (.invalidate key) s { s with cache := s.cache.invalidate key }
  | invalidateAll {s : Scene ι κ ν} :
      Step told .invalidateAll s { s with cache := s.cache.invalidateAll }

/-- Several events one after another. -/
inductive Run (told : κ → String) : List (Event ι κ ν) → Scene ι κ ν → Scene ι κ ν → Prop
  | nil {s : Scene ι κ ν} : Run told [] s s
  | cons {e : Event ι κ ν} {es : List (Event ι κ ν)} {s s' s'' : Scene ι κ ν} :
      Step told e s s' → Run told es s' s'' → Run told (e :: es) s s''

variable {told : κ → String} {s s' s'' : Scene ι κ ν} {es fs : List (Event ι κ ν)}

/-- What every step keeps, every run keeps. -/
theorem Run.invariant {P : Scene ι κ ν → Prop}
    (hstep : ∀ {e : Event ι κ ν} {s s' : Scene ι κ ν}, P s → Step told e s s' → P s')
    (h : Run told es s s') (hs : P s) : P s' := by
  induction h with
  | nil => exact hs
  | cons step _ ih => exact ih (hstep hs step)

/-- What an event makes of a call that takes part in it. -/
inductive Change (s : Scene ι κ ν) (c : ι) : Event ι κ ν → Call κ ν → Call κ ν → Prop
  | served {key : κ} {now : Int} {v : ν} {cache : ComputeCache κ ν}
      (found : s.cache.lookUp now key = (.value v, cache)) :
      Change s c (.ask c key now) .unmade (.served key v)
  | joined {key : κ} {now : Int} {n : Nat} {cache : ComputeCache κ ν}
      (found : s.cache.lookUp now key = (.running n, cache)) :
      Change s c (.ask c key now) .unmade (.joined key n)
  | owned {key : κ} {now : Int} {job : Computation κ} {cache : ComputeCache κ ν}
      (found : s.cache.lookUp now key = (.absent job, cache)) :
      Change s c (.ask c key now) .unmade (.owner job .running)
  | finish {job : Computation κ} {o : Outcome ν} :
      Change s c (.finish c o) (.owner job .running) (.owner job (.ended o))
  | settle {job : Computation κ} {o : Outcome ν} (now : Int) :
      Change s c (.settle c now) (.owner job (.ended o)) (.owner job (.settled o))
  | tell {job : Computation κ} {o : Outcome ν} :
      Change s c (.tell c) (.owner job (.settled o)) (.owner job (.told o))
  | receive {key : κ} {n : Nat} {a : Except ComputationFault ν} (answered : s.answer n = some a) :
      Change s c (.receive c) (.joined key n) (.received key n a)

theorem change_setCall {s t : Scene ι κ ν} {e : Event ι κ ν} {c : ι} {x : Call κ ν}
    (ht : t.call = s.call) (h : Change s c e (s.call c) x) (c' : ι) :
    (t.setCall c x).call c' = s.call c' ∨
      Change s c' e (s.call c') ((t.setCall c x).call c') := by
  rcases eq_or_ne c' c with rfl | hne
  · right
    rw [setCall_call_self]
    exact h
  · left
    rw [setCall_call_of_ne hne, ht]

/-- Every event changes a call in one of these ways, or not at all. -/
theorem Step.change {e : Event ι κ ν} (step : Step told e s s') (c : ι) :
    s'.call c = s.call c ∨ Change s c e (s.call c) (s'.call c) := by
  cases step with
  | served unmade found => exact change_setCall rfl (by rw [unmade]; exact .served found) c
  | joined unmade found => exact change_setCall rfl (by rw [unmade]; exact .joined found) c
  | owned unmade found => exact change_setCall rfl (by rw [unmade]; exact .owned found) c
  | finish o running => exact change_setCall rfl (by rw [running]; exact .finish) c
  | settle now ended => exact change_setCall rfl (by rw [ended]; exact .settle now) c
  | tell settled => exact change_setCall rfl (by rw [settled]; exact .tell) c
  | receive waiting answered =>
      exact change_setCall rfl (by rw [waiting]; exact .receive answered) c
  | invalidate key => exact Or.inl rfl
  | invalidateAll => exact Or.inl rfl

theorem Step.cache_ask {c : ι} {key : κ} {now : Int} (step : Step told (.ask c key now) s s') :
    s'.cache = (s.cache.lookUp now key).2 := by
  cases step with
  | served _ found => rw [found, setCall_cache]
  | joined _ found => rw [found, setCall_cache]
  | owned _ found => rw [found, setCall_cache]

/-! ## What calls show

An owner stays the owner of its computation, and what was once known stays known. What is new was
found by the event. -/

section Views

omit [DecidableEq ι]

variable {e : Event ι κ ν} {c : ι} {x y : Call κ ν}

/-- What is seen of calls and never changes once there is something to be seen. -/
def Lasting {β : Type} (f : Call κ ν → Option β) : Prop :=
  ∀ {ι : Type} {s : Scene ι κ ν} {c : ι} {e : Event ι κ ν} {x y : Call κ ν}, Change s c e x y →
    ∀ {b : β}, f x = some b → f y = some b

theorem lasting_job? : Lasting (Call.job? (κ := κ) (ν := ν)) := by
  intro _ _ _ _ _ _ h _ hx
  cases h <;> first | exact hx | cases hx

theorem lasting_closed? : Lasting (Call.closed? (κ := κ) (ν := ν)) := by
  intro _ _ _ _ _ _ h _ hx
  cases h <;> first | exact hx | cases hx

theorem lasting_ended? : Lasting (Call.ended? (κ := κ) (ν := ν)) := by
  intro _ _ _ _ _ _ h _ hx
  cases h <;> first | exact hx | cases hx

theorem lasting_told? : Lasting (Call.told? (κ := κ) (ν := ν)) := by
  intro _ _ _ _ _ _ h _ hx
  cases h <;> first | exact hx | cases hx

theorem lasting_joined? : Lasting (Call.joined? (κ := κ) (ν := ν)) := by
  intro _ _ _ _ _ _ h _ hx
  cases h <;> first | exact hx | cases hx

theorem lasting_served? : Lasting (Call.served? (κ := κ) (ν := ν)) := by
  intro _ _ _ _ _ _ h _ hx
  cases h <;> first | exact hx | cases hx

theorem Change.job?_new (h : Change s c e x y) {job : Computation κ} (hy : y.job? = some job) :
    x.job? = some job ∨
      ∃ key now cache, e = .ask c key now ∧ s.cache.lookUp now key = (.absent job, cache) := by
  cases h with
  | owned found =>
      cases hy
      exact Or.inr ⟨_, _, _, rfl, found⟩
  | _ => exact Or.inl hy

/-- A computation ends in the event in which its owner finishes it. -/
theorem Change.ended?_new (h : Change s c e x y) {job : Computation κ} {o : Outcome ν}
    (hy : y.ended? = some (job, o)) :
    x.ended? = some (job, o) ∨ (e = .finish c o ∧ x.job? = some job) := by
  cases h with
  | finish =>
      cases hy
      exact Or.inr ⟨rfl, rfl⟩
  | _ => exact Or.inl hy

/-- An open computation stays open until the cache is told how it ended. -/
theorem Change.open?_stays (h : Change s c e x y) {job : Computation κ} (hx : x.open? = some job) :
    y.open? = some job ∨
      ∃ now o, e = .settle c now ∧ x = .owner job (.ended o) ∧ y = .owner job (.settled o) := by
  cases h with
  | finish => exact Or.inl hx
  | settle now =>
      cases hx
      exact Or.inr ⟨now, _, rfl, rfl, rfl⟩
  | _ => cases hx

theorem Change.served?_new (h : Change s c e x y) {key : κ} {v : ν}
    (hy : y.served? = some (key, v)) :
    x.served? = some (key, v) ∨
      ∃ now cache, e = .ask c key now ∧ s.cache.lookUp now key = (.value v, cache) := by
  cases h with
  | served found =>
      cases hy
      exact Or.inr ⟨_, _, rfl, found⟩
  | _ => exact Or.inl hy

theorem Change.joined?_new (h : Change s c e x y) {key : κ} {n : Nat}
    (hy : y.joined? = some (key, n)) :
    x.joined? = some (key, n) ∨
      ∃ now cache, e = .ask c key now ∧ s.cache.lookUp now key = (.running n, cache) := by
  cases h with
  | joined found =>
      cases hy
      exact Or.inr ⟨_, _, rfl, found⟩
  | _ => exact Or.inl hy

theorem Change.received?_new (h : Change s c e x y) {n : Nat} {a : Except ComputationFault ν}
    (hy : y.received? = some (n, a)) : x.received? = some (n, a) ∨ s.answer n = some a := by
  cases h with
  | receive answered =>
      cases hy
      exact Or.inr answered
  | _ => exact Or.inl hy

theorem Change.told?_eq (h : Change s c e x y) (he : e ≠ .tell c) : y.told? = x.told? := by
  cases h with
  | tell => exact absurd rfl he
  | _ => rfl

end Views

theorem Step.stays {β : Type} {f : Call κ ν → Option β} (hf : Lasting f) {b : β}
    {e : Event ι κ ν} (step : Step told e s s') {c : ι} (hs : f (s.call c) = some b) :
    f (s'.call c) = some b := by
  rcases step.change c with heq | hchange
  · rw [heq]
    exact hs
  · exact hf hchange hs

theorem Run.stays {β : Type} {f : Call κ ν → Option β} (hf : Lasting f) {b : β}
    (run : Run told es s s') {c : ι} (hs : f (s.call c) = some b) : f (s'.call c) = some b :=
  run.invariant (P := fun s => f (s.call c) = some b) (fun hs step => step.stays hf hs) hs

/-! ## What an owner can do by itself -/

/-- Who has told the cache can tell those who joined. -/
theorem tell_run (told : κ → String) {c : ι} {job : Computation κ} {o : Outcome ν}
    (settled : s.call c = .owner job (.settled o)) :
    ∃ s', Run told [.tell c] s s' ∧ s'.cache = s.cache ∧ s'.call c = .owner job (.told o) ∧
      s'.answer job.number = some (o.forJoined (told job.key)) :=
  ⟨_, .cons (.tell settled) .nil, rfl, setCall_call_self .., Function.update_self ..⟩

/-- Whose computation has ended can tell the cache and then those who joined. -/
theorem settle_run (told : κ → String) {c : ι} {job : Computation κ} {o : Outcome ν} (now : Int)
    (ended : s.call c = .owner job (.ended o)) :
    ∃ s', Run told [.settle c now, .tell c] s s' ∧ s'.cache = s.cache.settle now job o ∧
      s'.call c = .owner job (.told o) ∧
      s'.answer job.number = some (o.forJoined (told job.key)) := by
  obtain ⟨s₁, step, settled, hcache⟩ : ∃ s₁, Step told (.settle c now) s s₁ ∧
      s₁.call c = .owner job (.settled o) ∧ s₁.cache = s.cache.settle now job o :=
    ⟨_, .settle now ended, setCall_call_self .., rfl⟩
  obtain ⟨s', run, hcache', hcall, hanswer⟩ := tell_run told settled
  exact ⟨s', .cons step run, hcache'.trans hcache, hcall, hanswer⟩

/-- Who computes can end the computation in any way, and tell the cache and those who joined. -/
theorem finish_run (told : κ → String) {c : ι} {job : Computation κ} (o : Outcome ν) (now : Int)
    (running : s.call c = .owner job .running) :
    ∃ s', Run told [.finish c o, .settle c now, .tell c] s s' ∧
      s'.cache = s.cache.settle now job o ∧ s'.call c = .owner job (.told o) ∧
      s'.answer job.number = some (o.forJoined (told job.key)) := by
  obtain ⟨s₁, step, ended, hcache⟩ : ∃ s₁, Step told (.finish c o) s s₁ ∧
      s₁.call c = .owner job (.ended o) ∧ s₁.cache = s.cache :=
    ⟨_, .finish o running, setCall_call_self .., rfl⟩
  obtain ⟨s', run, hcache', hcall, hanswer⟩ := settle_run told now ended
  rw [hcache] at hcache'
  exact ⟨s', .cons step run, hcache', hcall, hanswer⟩

end Scene

end Conformity
