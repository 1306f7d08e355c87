import Conformity.Cache.Basic
import Conformity.Failure
import Conformity.Slot

/-!
# Obtaining values through a cache

A value that a cache does not hold is computed and given to the cache. The failure of a computation
becomes a failure of the cache; nothing is kept then, and the next look-up computes again.
-/

namespace Conformity

/-- How a computation with some result ends. -/
def Outcome.ofExcept {ν : Type} : Except Failure ν → Outcome ν
  | .ok v => .value v
  | .error (.computation f) => .fault f
  | .error e => .failure e.message

variable {σ κ ν : Type} [DecidableEq κ]

/-- The value of a key, which messages tell as `told`. A computation that asks for its own value never
gets it. -/
def ComputeCache.obtain (slot : Slot σ (ComputeCache κ ν)) (now : Int) (told : String) (key : κ)
    (compute : ExceptT Failure (StateM σ) ν) : ExceptT Failure (StateM σ) ν :=
  ExceptT.mk do
    match ← slot.within (ComputeCache.lookUp now key) with
    | .value v => return .ok v
    | .running _ => return .error (.computation (⟨told, "computation interrupted"⟩))
    | .absent job =>
      let outcome := Outcome.ofExcept (← compute.run)
      modify (slot.change (ComputeCache.settle now job outcome))
      return (outcome.forJoined told).mapError .computation

end Conformity
