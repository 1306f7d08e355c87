/-!
# Caches that compute

A cache keeps a limited number of values for a limited time. A caller that finds no value computes it,
while the cache is free for others; callers that ask for the same key meanwhile join the computation
and get its answer. Each computation has a number of its own. A value is kept only if the cache was
not emptied since the computation began. The functions here are the steps that a cache takes at once:
to look a key up (`lookUp`), to end a computation with a value (`finish`) or without one (`giveUp`),
and to drop values.
-/

namespace Conformity

/-- A value that is kept until a time. -/
structure CacheEntry (κ ν : Type) where
  key : κ
  value : ν
  expires : Int
  deriving Repr

/-- A computation that was begun. -/
structure Computation (κ : Type) where
  number : Nat
  key : κ
  /-- The generation of the cache in which it was begun. -/
  generation : Nat
  deriving DecidableEq, Repr

/-- A cache of values of type `ν` by keys of type `κ`. -/
structure ComputeCache (κ ν : Type) where
  name : String
  maxSize : Nat
  /-- How long values are kept. -/
  lifetime : Int
  /-- The values that are kept, the one not asked for the longest first. -/
  entries : List (CacheEntry κ ν) := []
  /-- The running computations that others may join. -/
  pending : List (κ × Nat) := []
  /-- How often the cache was emptied. -/
  generation : Nat := 0
  /-- How many look-ups found a value. -/
  hits : Nat := 0
  /-- How many computations were begun: one at each look-up that found neither a value nor a running
  computation. -/
  computations : Nat := 0
  deriving Inhabited, Repr

/-- What a look-up gives. -/
inductive Found (κ ν : Type) where
  | value (v : ν)
  /-- The computation with this number is running. -/
  | running (number : Nat)
  /-- The caller has to compute the value. -/
  | absent (c : Computation κ)
  deriving Repr

namespace ComputeCache

variable {κ ν : Type} [DecidableEq κ]

/-- The numbers that describe the state of a cache. -/
structure Stats where
  size : Nat
  hits : Nat
  misses : Nat
  computations : Nat
  pending : Nat
  deriving DecidableEq, Repr

/-- The numbers in this order. -/
def Stats.toList (s : Stats) : List Nat := [s.size, s.hits, s.misses, s.computations, s.pending]

/-- The numbers that describe a cache. -/
def stats (c : ComputeCache κ ν) : Stats :=
  ⟨c.entries.length, c.hits, c.computations, c.computations, c.pending.length⟩

/-- The entry of a key, live or not. -/
def kept? (c : ComputeCache κ ν) (key : κ) : Option (CacheEntry κ ν) :=
  c.entries.find? fun e => e.key = key

/-- The entries without that of a key. -/
def without (key : κ) (es : List (CacheEntry κ ν)) : List (CacheEntry κ ν) :=
  es.filter fun e => e.key ≠ key

/-- The value of a key that is live at a time; asking for it this way leaves no trace. -/
def peek (now : Int) (key : κ) (c : ComputeCache κ ν) : Option ν :=
  match c.kept? key with
  | some e => if now < e.expires then some e.value else none
  | none => none

/-- Looks for the value of a key. -/
def lookUp (now : Int) (key : κ) (c : ComputeCache κ ν) : Found κ ν × ComputeCache κ ν :=
  match c.kept? key with
  | some e =>
    if now < e.expires then
      (.value e.value, { c with entries := without key c.entries ++ [e], hits := c.hits + 1 })
    else miss { c with entries := without key c.entries }
  | none => miss c
where
  /-- Joins the running computation of the key, or begins one. -/
  miss (c : ComputeCache κ ν) : Found κ ν × ComputeCache κ ν :=
    match c.pending.lookup key with
    | some number => (.running number, c)
    | none =>
      (.absent ⟨c.computations, key, c.generation⟩,
        { c with
          pending := (key, c.computations) :: c.pending
          computations := c.computations + 1 })

/-- Forgets that a computation is running. A newer one for its key is left alone. -/
def giveUp (job : Computation κ) (c : ComputeCache κ ν) : ComputeCache κ ν :=
  { c with pending := c.pending.filter fun p => p ≠ (job.key, job.number) }

/-- Keeps a value, as the one that was asked for last. -/
def keep (now : Int) (key : κ) (value : ν) (c : ComputeCache κ ν) : ComputeCache κ ν :=
  let entries := without key c.entries ++ [⟨key, value, now + c.lifetime⟩]
  { c with entries := entries.drop (entries.length - c.maxSize) }

/-- Ends a computation with a value. The value is kept unless the cache was emptied meanwhile. -/
def finish (now : Int) (job : Computation κ) (value : ν) (c : ComputeCache κ ν) :
    ComputeCache κ ν :=
  let c := c.giveUp job
  if job.generation = c.generation then c.keep now job.key value else c

/-- Drops the value of a key. -/
def invalidate (key : κ) (c : ComputeCache κ ν) : ComputeCache κ ν :=
  { c with entries := without key c.entries }

/-- Empties the cache. Values of computations that are running will not be kept. -/
def invalidateAll (c : ComputeCache κ ν) : ComputeCache κ ν :=
  { c with entries := [], pending := [], generation := c.generation + 1 }

end ComputeCache

/-! ## Outcomes of computations -/

/-- A computation for a key that failed for a reason. -/
structure ComputationFault where
  key : String
  reason : String
  deriving DecidableEq, Repr

/-- The wording of a failed computation. -/
def ComputationFault.message (f : ComputationFault) : String :=
  "Compilation for " ++ f.key ++ " failed: " ++ f.reason

/-- How a computation ends. -/
inductive Outcome (ν : Type) where
  | value (v : ν)
  /-- It fails for a reason of its own. -/
  | failure (reason : String)
  /-- A computation that it relies on has failed. -/
  | fault (f : ComputationFault)
  /-- It is interrupted. -/
  | interrupted
  deriving Repr

namespace Outcome

variable {ν : Type}

/-- What those that joined a computation for a key get. -/
def forJoined (key : String) : Outcome ν → Except ComputationFault ν
  | value v => .ok v
  | failure reason => .error ⟨key, reason⟩
  | fault f => .error f
  | interrupted => .error ⟨key, "computation interrupted"⟩

end Outcome

/-- Ends a computation in whatever way it ends. -/
def ComputeCache.settle {κ ν : Type} [DecidableEq κ] (now : Int) (job : Computation κ)
    (outcome : Outcome ν) (c : ComputeCache κ ν) : ComputeCache κ ν :=
  match outcome with
  | .value v => c.finish now job v
  | _ => c.giveUp job

/-- A cache without values; it has to have room for one at least. -/
def ComputeCache.make? (κ ν : Type) (name : String) (maxSize : Int) (lifetime : Int) :
    Option (ComputeCache κ ν) :=
  if maxSize < 1 then none else some { name, maxSize := maxSize.toNat, lifetime }

end Conformity
