import Conformity.Cache.Obtain
import Conformity.Proofs.Cache.Scene
import Conformity.Proofs.Cache.Steps
import Conformity.Proofs.Work

/-!
# A call by itself

To obtain a value through a cache is to take the steps of one call, one after another: the call
looks its key up, and where it comes to own a computation, it computes, tells the cache, and then
tells those who joined (`ComputeCache.obtain_run`). So what holds of every run of calls holds of the
program, which makes its calls by itself.
-/

namespace Conformity

variable {ι σ κ ν : Type}

/-- The events of a call that nobody disturbs. -/
inductive Event.ByItself (c : ι) (key : κ) (now : Int) (compute : ExceptT Failure (StateM σ) ν) :
    Event ι κ ν → Prop
  | ask : ByItself c key now compute (.ask c key now)
  | finish (st : σ) : ByItself c key now compute (.finish c (.ofExcept (resultOf compute st).1))
  | settle : ByItself c key now compute (.settle c now)
  | tell : ByItself c key now compute (.tell c)

theorem Outcome.ofExcept_ne_interrupted (r : Except Failure ν) :
    Outcome.ofExcept r ≠ .interrupted := by
  intro h
  cases r with
  | ok v => cases h
  | error e => cases e <;> cases h

/-- An owner that is not interrupted replies what those who joined do. -/
theorem Reply.ofOutcome_eq_ofAnswer {told : String} {o : Outcome ν} (h : o ≠ .interrupted) :
    ofOutcome told o = ofAnswer (o.forJoined told) := by
  cases o with
  | interrupted => exact absurd rfl h
  | _ => rfl

/-- A call that looks its key up and finds nothing can take all its steps one after another. -/
theorem Scene.owner_run [DecidableEq ι] [DecidableEq κ] (told : κ → String) {s : Scene ι κ ν} {c : ι}
    {key : κ} {now : Int} {job : Computation κ} {cache : ComputeCache κ ν} (o : Outcome ν)
    (unmade : s.call c = .unmade) (found : s.cache.lookUp now key = (.absent job, cache)) :
    ∃ s', Run told [.ask c key now, .finish c o, .settle c now, .tell c] s s' ∧
      s'.cache = cache.settle now job o ∧ s'.call c = .owner job (.told o) := by
  obtain ⟨s₁, ask, running, hcache⟩ : ∃ s₁, Step told (.ask c key now) s s₁ ∧
      s₁.call c = .owner job .running ∧ s₁.cache = cache :=
    ⟨_, .owned unmade found, setCall_call_self .., rfl⟩
  obtain ⟨s', run, hcache', hcall, -⟩ := finish_run told o now running
  rw [hcache] at hcache'
  exact ⟨s', .cons ask run, hcache', hcall⟩

namespace ComputeCache

variable [DecidableEq κ]

theorem resultOf_obtain (slot : Slot σ (ComputeCache κ ν)) (now : Int) (told : String) (key : κ)
    (compute : ExceptT Failure (StateM σ) ν) (st : σ) :
    resultOf (obtain slot now told key compute) st =
      match lookUp now key (slot.get st) with
      | (.value v, cache) => (.ok v, slot.put cache st)
      | (.running _, cache) =>
        (.error (.computation ⟨told, "computation interrupted"⟩), slot.put cache st)
      | (.absent job, cache) =>
        let computed := resultOf compute (slot.put cache st)
        (((Outcome.ofExcept computed.1).forJoined told).mapError .computation,
          slot.change (settle now job (Outcome.ofExcept computed.1)) computed.2) := by
  unfold resultOf obtain Slot.within
  rw [ExceptT.run_mk, StateT.run_bind]
  simp only [StateT.run]
  rcases lookUp now key (slot.get st) with ⟨found, cache⟩
  cases found <;> rfl

/-- To obtain a value while no computation of its key runs is a run of the steps of one call, which
replies what is obtained. -/
theorem obtain_run [DecidableEq ι] {slot : Slot σ (ComputeCache κ ν)} {now : Int} {told : κ → String}
    {key : κ} {compute : ExceptT Failure (StateM σ) ν} {st st' : σ} {r : Except Failure ν}
    {s : Scene ι κ ν} {c : ι} (lawful : ∀ a st, slot.get (slot.put a st) = a)
    (keeps : Keeps slot compute) (idle : (slot.get st).pending.lookup key = none)
    (obtained : resultOf (obtain slot now (told key) key compute) st = (r, st'))
    (cache : s.cache = slot.get st) (unmade : s.call c = .unmade) :
    ∃ es s' answer, Scene.Run told es s s' ∧ (∀ e ∈ es, e.ByItself c key now compute) ∧
      s'.cache = slot.get st' ∧ r = answer.mapError .computation ∧
      s'.reply? told c = some (.ofAnswer answer) := by
  rw [resultOf_obtain] at obtained
  rcases found : lookUp now key (slot.get st) with ⟨result, after⟩
  rw [found] at obtained
  rw [← cache] at found
  cases result with
  | value v =>
      cases obtained
      refine ⟨_, _, .ok v, .cons (.served unmade found) .nil, ?_, ?_, rfl, ?_⟩
      · simp [Event.ByItself.ask]
      · rw [lawful, Scene.setCall_cache]
      · unfold Scene.reply?
        rw [Scene.setCall_call_self]
        rfl
  | running n =>
      -- nobody computes the key, so there is nothing to join
      have hjoin := (lookUp_running found).1
      rw [cache, idle] at hjoin
      cases hjoin
  | absent job =>
      obtain ⟨-, hjob, -⟩ := lookUp_absent found
      have hkey : job.key = key := by rw [hjob]
      -- the cache that is told of the end is the one that the look-up left
      have hafter : slot.get (resultOf compute (slot.put after st)).2 = after := by
        rw [keeps, lawful]
      rcases computed : resultOf compute (slot.put after st) with ⟨r', st₁⟩
      rw [computed] at hafter
      have hend : Outcome.ofExcept r' = .ofExcept (resultOf compute (slot.put after st)).1 := by
        rw [computed]
      obtain ⟨s', run, hcache, htold⟩ := Scene.owner_run told (.ofExcept r') unmade found
      dsimp only at obtained
      rw [computed] at obtained
      cases obtained
      refine ⟨_, s', _, run, ?_, ?_, rfl, ?_⟩
      · intro e he
        simp only [List.mem_cons, List.not_mem_nil, or_false] at he
        rcases he with rfl | rfl | rfl | rfl
        · exact .ask
        · rw [hend]
          exact .finish _
        · exact .settle
        · exact .tell
      · rw [hcache]
        unfold Slot.change
        rw [lawful, hafter]
      · unfold Scene.reply?
        rw [htold]
        dsimp only
        rw [hkey, Reply.ofOutcome_eq_ofAnswer (Outcome.ofExcept_ne_interrupted r')]

end ComputeCache

end Conformity
