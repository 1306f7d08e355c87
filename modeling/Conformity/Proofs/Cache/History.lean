import Conformity.Proofs.Cache.Alone
import Mathlib.Data.Finset.Card

/-!
# The history of a cache

A cache is used again and again: it is asked for values, peeked at, and values are dropped from it. A
use comes to an effect, and the effects so far tell what the cache ought to know: the value of the last
computation of a key that ended with one (`lastStored?`), and the keys that were used since a key was
(`usedSince`). What is said here about effects does not look at the entries of a cache.
-/

namespace Conformity.ComputeCache

variable {σ κ ν : Type}

/-- A use of a cache from its beginning to its end, before the next one begins. -/
inductive Use (κ ν : Type) where
  /-- The cache is asked for a key at a time. If the value has to be computed, the computation ends in
  a way, and at a time. -/
  | ask (key : κ) (now : Int) (outcome : Outcome ν) (ended : Int)
  | peek (key : κ) (now : Int)
  | invalidate (key : κ)
  | invalidateAll

/-- What a use comes to. -/
inductive Effect (κ ν : Type) where
  /-- A value was found, and nothing was computed. -/
  | hit (key : κ) (value : ν)
  /-- A computation ended with a value at a time. -/
  | stored (key : κ) (value : ν) (time : Int)
  /-- A computation ended without a value. -/
  | failed (key : κ)
  /-- A computation that somebody else had begun was joined. -/
  | joined (key : κ)
  | peeked (key : κ) (found : Option ν)
  | dropped (key : κ)
  | emptied

namespace Use

/-- The times that a clock shows during a use. -/
def readings : Use κ ν → List Int
  | ask _ now _ ended => [now, ended]
  | peek _ now => [now]
  | invalidate _ | invalidateAll => []

/-- Is this a peek? -/
def isPeek : Use κ ν → Bool
  | peek .. => true
  | _ => false

end Use

namespace Effect

/-- What comes of a computation that ends at a time. -/
def ofOutcome (key : κ) (ended : Int) : Outcome ν → Effect κ ν
  | .value v => stored key v ended
  | _ => failed key

theorem ofOutcome_cases (key : κ) (ended : Int) (outcome : Outcome ν) :
    (∃ v, outcome = .value v ∧ ofOutcome key ended outcome = stored key v ended) ∨
      (∀ v, outcome ≠ .value v) ∧ ofOutcome key ended outcome = failed key := by
  cases outcome with
  | value v => exact .inl ⟨v, rfl, rfl⟩
  | _ => exact .inr ⟨by simp, rfl⟩

/-- Is this what comes of a peek? -/
def isPeeked : Effect κ ν → Bool
  | peeked .. => true
  | _ => false

/-- The key under which a value was stored or hit. -/
def used? : Effect κ ν → Option κ
  | hit key _ | stored key _ _ => some key
  | _ => none

end Effect

/-! ## What the effects tell -/

section Past

variable [DecidableEq κ]

/-- The value of the last computation of a key that ended with a value, and when it ended, unless the key
was invalidated since. The last effect comes first. -/
def lastStored? (key : κ) : List (Effect κ ν) → Option (ν × Int)
  | [] => none
  | .stored k v time :: past => if k = key then some (v, time) else lastStored? key past
  | .dropped k :: past => if k = key then none else lastStored? key past
  | .emptied :: _ => none
  | _ :: past => lastStored? key past

/-- The keys that were stored or hit since a key was stored or hit for the last time. The last effect
comes first. -/
def usedSince (key : κ) : List (Effect κ ν) → List κ
  | [] => []
  | e :: past =>
    match e.used? with
    | some k => if k = key then [] else k :: usedSince key past
    | none => usedSince key past

/-- So many other keys were used since a key was that a cache of a size need not know its value. -/
def Crowded (size : Nat) (key : κ) (past : List (Effect κ ν)) : Prop :=
  size ≤ (usedSince key past).toFinset.card

variable {key k : κ} {e : Effect κ ν} {past : List (Effect κ ν)} {size : Nat}

theorem usedSince_of_unused (h : e.used? = none) : usedSince key (e :: past) = usedSince key past := by
  rw [usedSince, h]

theorem usedSince_of_used (h : e.used? = some k) (hne : k ≠ key) :
    usedSince key (e :: past) = k :: usedSince key past := by
  rw [usedSince, h]
  exact if_neg hne

theorem usedSince_of_self (h : e.used? = some key) : usedSince key (e :: past) = [] := by
  rw [usedSince, h]
  exact if_pos rfl

/-- A key was not used since it was used for the last time. -/
theorem not_mem_usedSince_self (key : κ) (past : List (Effect κ ν)) : key ∉ usedSince key past := by
  induction past with
  | nil => exact List.not_mem_nil
  | cons e past ih =>
      cases h : e.used? with
      | none =>
          rw [usedSince_of_unused h]
          exact ih
      | some k =>
          by_cases hk : k = key
          · rw [usedSince_of_self (h.trans (congrArg some hk))]
            exact List.not_mem_nil
          · rw [usedSince_of_used h hk, List.mem_cons, not_or]
            exact ⟨Ne.symm hk, ih⟩

theorem Crowded.unused (hcrowded : Crowded size key past) (h : e.used? = none) :
    Crowded size key (e :: past) := by
  unfold Crowded
  rwa [usedSince_of_unused h]

/-- The use of another key makes it no less crowded. -/
theorem Crowded.used (hcrowded : Crowded size key past) (h : e.used? = some k) (hne : k ≠ key) :
    Crowded size key (e :: past) := by
  unfold Crowded
  rw [usedSince_of_used h hne, List.toFinset_cons]
  exact hcrowded.trans (Finset.card_le_card (Finset.subset_insert ..))

/-- The use of a key changes what is stored under this key only. -/
theorem lastStored?_of_used (h : e.used? = some k) (hne : k ≠ key) :
    lastStored? key (e :: past) = lastStored? key past := by
  cases e with
  | hit => rfl
  | stored =>
      cases h
      exact if_neg hne
  | _ => cases h

end Past

/-! ## Uses -/

variable [DecidableEq κ]

/-- What a use comes to, and what becomes of the cache. -/
def serve (c : ComputeCache κ ν) : Use κ ν → Effect κ ν × ComputeCache κ ν
  | .ask key now outcome ended =>
    match c.lookUp now key with
    | (.value v, c) => (.hit key v, c)
    | (.running _, c) => (.joined key, c)
    | (.absent job, c) => (.ofOutcome key ended outcome, c.settle ended job outcome)
  | .peek key now => (.peeked key (c.peek now key), c)
  | .invalidate key => (.dropped key, c.invalidate key)
  | .invalidateAll => (.emptied, c.invalidateAll)

/-- The cache after some uses. -/
def after (c : ComputeCache κ ν) (us : List (Use κ ν)) : ComputeCache κ ν :=
  us.foldl (fun c u => (c.serve u).2) c

/-- What uses come to, one after another. -/
def effects (c : ComputeCache κ ν) : List (Use κ ν) → List (Effect κ ν)
  | [] => []
  | u :: us => (c.serve u).1 :: effects (c.serve u).2 us

/-- What uses came to, the last one first. -/
def past (c : ComputeCache κ ν) (us : List (Use κ ν)) : List (Effect κ ν) := (c.effects us).reverse

variable {c : ComputeCache κ ν} {key : κ} {now ended : Int} {outcome : Outcome ν}

theorem after_concat (c : ComputeCache κ ν) (us : List (Use κ ν)) (u : Use κ ν) :
    c.after (us ++ [u]) = ((c.after us).serve u).2 := List.foldl_concat ..

theorem effects_append (c : ComputeCache κ ν) (us vs : List (Use κ ν)) :
    c.effects (us ++ vs) = c.effects us ++ (c.after us).effects vs := by
  induction us generalizing c with
  | nil => rfl
  | cons u us ih => exact congrArg _ (ih _)

theorem past_concat (c : ComputeCache κ ν) (us : List (Use κ ν)) (u : Use κ ν) :
    c.past (us ++ [u]) = ((c.after us).serve u).1 :: c.past us := by
  rw [past, effects_append, List.reverse_append]
  rfl

/-- What comes of asking, by what the look-up gives. -/
inductive Asked (c : ComputeCache κ ν) (key : κ) (now : Int) (outcome : Outcome ν) (ended : Int) :
    Effect κ ν × ComputeCache κ ν → Prop
  | hit {v : ν} {c' : ComputeCache κ ν} : c.lookUp now key = (.value v, c') →
      Asked c key now outcome ended (.hit key v, c')
  | joined {n : Nat} {c' : ComputeCache κ ν} : c.lookUp now key = (.running n, c') →
      Asked c key now outcome ended (.joined key, c')
  | computed {job : Computation κ} {c' : ComputeCache κ ν} : c.lookUp now key = (.absent job, c') →
      Asked c key now outcome ended (.ofOutcome key ended outcome, c'.settle ended job outcome)

theorem asked {r : Effect κ ν × ComputeCache κ ν}
    (hserve : c.serve (.ask key now outcome ended) = r) : Asked c key now outcome ended r := by
  rw [← hserve]
  unfold serve
  dsimp only
  split
  · next h => exact .hit h
  · next h => exact .joined h
  · next h => exact .computed h

/-- A value is found exactly if the look-up gives it. -/
theorem serve_eq_hit {v : ν} :
    (c.serve (.ask key now outcome ended)).1 = .hit key v ↔ (c.lookUp now key).1 = .value v := by
  generalize hserve : c.serve (.ask key now outcome ended) = r
  cases asked hserve with
  | hit h => simp [h]
  | joined h => simp [h]
  | computed h => cases outcome <;> simp [h, Effect.ofOutcome]

/-- No use changes how much room there is, and how long values are kept. -/
theorem serve_limits (c : ComputeCache κ ν) (u : Use κ ν) :
    (c.serve u).2.maxSize = c.maxSize ∧ (c.serve u).2.lifetime = c.lifetime := by
  cases u with
  | ask key now outcome ended =>
      generalize hserve : c.serve (.ask key now outcome ended) = r
      cases asked hserve with
      | hit h =>
          obtain ⟨x, -, -, -, -, rfl⟩ := lookUp_value h
          exact ⟨rfl, rfl⟩
      | joined h =>
          obtain ⟨-, rfl⟩ := lookUp_running h
          exact ⟨rfl, rfl⟩
      | computed h =>
          obtain ⟨-, -, rfl⟩ := lookUp_absent h
          exact ⟨settle_maxSize .., settle_lifetime ..⟩
  | _ => exact ⟨rfl, rfl⟩

theorem after_limits (c : ComputeCache κ ν) (us : List (Use κ ν)) :
    (c.after us).maxSize = c.maxSize ∧ (c.after us).lifetime = c.lifetime := by
  induction us generalizing c with
  | nil => exact ⟨rfl, rfl⟩
  | cons u us ih =>
      obtain ⟨hsize, hlifetime⟩ := serve_limits c u
      obtain ⟨hsizes, hlifetimes⟩ := ih (c.serve u).2
      exact ⟨hsizes.trans hsize, hlifetimes.trans hlifetime⟩

/-- A peek sees exactly what a look-up at the same time finds. -/
theorem peek_eq_some {v : ν} : c.peek now key = some v ↔ (c.lookUp now key).1 = .value v := by
  have hmiss : ∀ c' : ComputeCache κ ν, (lookUp.miss key c').1 ≠ .value v := by
    intro c'
    unfold lookUp.miss
    split <;> simp
  unfold peek lookUp
  split
  · split
    · simp
    · simp [hmiss]
  · simp [hmiss]

/-- Peeks are not noticed: without them all other uses come to the same. -/
theorem effects_filter_peeks (c : ComputeCache κ ν) (us : List (Use κ ν)) :
    c.effects (us.filter (!·.isPeek)) = (c.effects us).filter (!·.isPeeked) := by
  induction us generalizing c with
  | nil => rfl
  | cons u us ih =>
      rw [effects, List.filter_cons, List.filter_cons]
      cases u with
      | peek key now => exact ih c
      | ask key now outcome ended =>
          have hseen : (c.serve (.ask key now outcome ended)).1.isPeeked = false := by
            generalize hserve : c.serve (.ask key now outcome ended) = r
            cases asked hserve with
            | computed => cases outcome <;> rfl
            | _ => rfl
          rw [if_pos (show (!(Use.ask key now outcome ended).isPeek) = true from rfl), hseen]
          exact congrArg _ (ih _)
      | invalidate key => exact congrArg _ (ih _)
      | invalidateAll => exact congrArg _ (ih _)

/-- To obtain a value through a cache is to ask for it, if the computation leaves the cache alone. -/
theorem get_resultOf_obtain {slot : Slot σ (ComputeCache κ ν)} {told : String}
    {compute : ExceptT Failure (StateM σ) ν} {st : σ} (lawful : ∀ a st, slot.get (slot.put a st) = a)
    (keeps : Keeps slot compute) :
    slot.get (resultOf (obtain slot now told key compute) st).2 =
      ((slot.get st).serve (.ask key now (.ofExcept
        (resultOf compute (slot.put ((slot.get st).lookUp now key).2 st)).1) now)).2 := by
  rw [resultOf_obtain]
  generalize hserve : (slot.get st).serve _ = r
  cases asked hserve with
  | hit h =>
      rw [h]
      exact lawful _ st
  | joined h =>
      rw [h]
      exact lawful _ st
  | computed h =>
      rw [h]
      dsimp only
      unfold Slot.change
      rw [lawful, keeps, lawful]

end Conformity.ComputeCache
