/-!
# Parts of a state

A slot says where a value lies inside a larger state, so that what works on the value works on the
state, too.
-/

namespace Conformity

/-- Where a value lies inside a state. -/
structure Slot (σ α : Type) where
  get : σ → α
  put : α → σ → σ

namespace Slot

variable {σ α β : Type}

/-- The whole state. -/
def whole : Slot σ σ := ⟨id, fun s _ => s⟩

/-- Changes the value. -/
def change (slot : Slot σ α) (f : α → α) (s : σ) : σ := slot.put (f (slot.get s)) s

/-- Does something with the value. -/
def within (slot : Slot σ α) (a : StateM α β) : StateM σ β := fun s =>
  let (b, v) := a.run (slot.get s)
  (b, slot.put v s)

/-- Tries something with the value; a failure leaves behind what was done to the value. -/
def lift {ε : Type} (slot : Slot σ α) (a : ExceptT ε (StateM α) β) : ExceptT ε (StateM σ) β :=
  ExceptT.mk (slot.within a.run)

/-- Does something while a lock is held, and lets go of the lock however it ends. Whoever finds the
lock held waits, so that the work begins with a free lock. -/
def holding {ε : Type} (lock : Slot σ Bool) (a : ExceptT ε (StateM σ) β) : ExceptT ε (StateM σ) β :=
  ExceptT.mk do
    modify (lock.put true)
    let result ← a.run
    modify (lock.put false)
    return result

end Slot

end Conformity
