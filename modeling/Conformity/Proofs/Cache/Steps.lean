import Conformity.Cache.Basic
import Mathlib.Data.List.Nodup

/-!
# What the steps of a cache do

For each operation of a cache, what becomes of the values it keeps and of the computations that
others may join. Everything else about caches is proved from these statements; none of them says
anything about callers.
-/

namespace Conformity.ComputeCache

variable {κ ν : Type} [DecidableEq κ]

/-! ## Entries -/

@[simp] theorem mem_without {key : κ} {es : List (CacheEntry κ ν)} {e : CacheEntry κ ν} :
    e ∈ without key es ↔ e ∈ es ∧ e.key ≠ key := by
  simp [without]

theorem without_sublist (key : κ) (es : List (CacheEntry κ ν)) : (without key es).Sublist es :=
  List.filter_sublist

/-- Only an entry of a key is dropped with the key. -/
theorem without_eq_self {key : κ} {es : List (CacheEntry κ ν)} (h : ∀ e ∈ es, e.key ≠ key) :
    without key es = es := by
  rw [without, List.filter_eq_self]
  simpa using h

theorem kept?_eq_none {key : κ} {c : ComputeCache κ ν} :
    c.kept? key = none ↔ ∀ e ∈ c.entries, e.key ≠ key := by
  simp [kept?]

theorem mem_of_kept? {key : κ} {c : ComputeCache κ ν} {e : CacheEntry κ ν}
    (h : c.kept? key = some e) : e ∈ c.entries ∧ e.key = key :=
  ⟨List.mem_of_find?_eq_some h, by simpa using List.find?_some h⟩

/-- What a peek finds is kept under the key. -/
theorem mem_of_peek {now : Int} {key : κ} {c : ComputeCache κ ν} {v : ν}
    (h : c.peek now key = some v) : ∃ e ∈ c.entries, e.key = key ∧ e.value = v := by
  unfold peek at h
  split at h
  · next e he =>
    obtain ⟨hmem, hkey⟩ := mem_of_kept? he
    split at h
    · cases h
      exact ⟨e, hmem, hkey, rfl⟩
    · cases h
  · cases h

/-! ## Looking up -/

/-- A value that a look-up finds is kept under the key and has not expired. -/
theorem lookUp_value {now : Int} {key : κ} {c c' : ComputeCache κ ν} {v : ν}
    (h : c.lookUp now key = (.value v, c')) :
    ∃ e ∈ c.entries, e.key = key ∧ e.value = v ∧ now < e.expires ∧
      c' = { c with entries := without key c.entries ++ [e], hits := c.hits + 1 } := by
  unfold lookUp at h
  split at h
  · next e he =>
    obtain ⟨hmem, hkey⟩ := mem_of_kept? he
    split at h
    · next hlive =>
      cases h
      exact ⟨e, hmem, hkey, rfl, hlive, rfl⟩
    · unfold lookUp.miss at h
      split at h <;> cases h
  · unfold lookUp.miss at h
    split at h <;> cases h

/-- What does not find a value does the same as a miss without the entries of the key. -/
theorem lookUp_eq_miss {now : Int} {key : κ} {c : ComputeCache κ ν}
    (h : ∀ v, (c.lookUp now key).1 ≠ .value v) :
    c.lookUp now key = lookUp.miss key { c with entries := without key c.entries } := by
  unfold lookUp at h ⊢
  split
  · next e he =>
    rw [he] at h
    split
    · next hlive => exact absurd (by simp [hlive]) (h e.value)
    · rfl
  · next he => rw [without_eq_self (kept?_eq_none.mp he)]

/-- A computation that a look-up joins runs for the key. -/
theorem lookUp_running {now : Int} {key : κ} {c c' : ComputeCache κ ν} {n : Nat}
    (h : c.lookUp now key = (.running n, c')) :
    c.pending.lookup key = some n ∧ c' = { c with entries := without key c.entries } := by
  rw [lookUp_eq_miss (by rw [h]; simp)] at h
  unfold lookUp.miss at h
  split at h
  · next m hm => cases h; exact ⟨hm, rfl⟩
  · cases h

/-- A look-up begins a computation only where none runs for the key. -/
theorem lookUp_absent {now : Int} {key : κ} {c c' : ComputeCache κ ν} {job : Computation κ}
    (h : c.lookUp now key = (.absent job, c')) :
    c.pending.lookup key = none ∧ job = ⟨c.computations, key, c.generation⟩ ∧
      c' = { c with
        entries := without key c.entries
        pending := (key, c.computations) :: c.pending
        computations := c.computations + 1 } := by
  rw [lookUp_eq_miss (by rw [h]; simp)] at h
  unfold lookUp.miss at h
  split at h
  · cases h
  · next hm => cases h; exact ⟨hm, rfl, rfl⟩

/-! ## Ending a computation -/

theorem mem_giveUp {job : Computation κ} {c : ComputeCache κ ν} {p : κ × Nat} :
    p ∈ (c.giveUp job).pending ↔ p ∈ c.pending ∧ p ≠ (job.key, job.number) := by
  simp [giveUp]

/-- A cache that has room for a value keeps the one it is given, and beside it only values that it
kept before for other keys. -/
theorem mem_keep {now : Int} {key : κ} {v : ν} {c : ComputeCache κ ν} {e : CacheEntry κ ν}
    (h : e ∈ (c.keep now key v).entries) :
    (e ∈ c.entries ∧ e.key ≠ key) ∨ (e.key = key ∧ e.value = v) := by
  have hmem := List.mem_of_mem_drop h
  rcases List.mem_append.mp hmem with hold | hnew
  · exact Or.inl (mem_without.mp hold)
  · rw [List.mem_singleton.mp hnew]
    exact Or.inr ⟨rfl, rfl⟩

theorem mem_keep_self (now : Int) (key : κ) (v : ν) {c : ComputeCache κ ν}
    (hroom : 0 < c.maxSize) :
    (⟨key, v, now + c.lifetime⟩ : CacheEntry κ ν) ∈ (c.keep now key v).entries := by
  have hlen : (without key c.entries).length + 1 - c.maxSize ≤ (without key c.entries).length := by
    omega
  simp only [keep, List.length_append, List.length_singleton]
  rw [List.drop_append_of_le_length hlen]
  simp

/-- A computation that was begun before the cache was emptied changes no entry. -/
theorem settle_of_stale {now : Int} {job : Computation κ} {o : Outcome ν} {c : ComputeCache κ ν}
    (h : job.generation ≠ c.generation) : c.settle now job o = c.giveUp job := by
  cases o with
  | value v => exact if_neg h
  | failure reason => rfl
  | fault f => rfl
  | interrupted => rfl

/-- A value is kept in the generation in which its computation was begun. -/
theorem settle_of_value {now : Int} {job : Computation κ} {v : ν} {c : ComputeCache κ ν}
    (h : job.generation = c.generation) :
    c.settle now job (.value v) = (c.giveUp job).keep now job.key v :=
  if_pos h

/-- A computation without a value changes no entry. -/
theorem settle_of_failed {now : Int} {job : Computation κ} {o : Outcome ν} {c : ComputeCache κ ν}
    (h : ∀ v, o ≠ .value v) : c.settle now job o = c.giveUp job := by
  cases o with
  | value v => exact absurd rfl (h v)
  | _ => rfl

/-- How a computation ends: its value is kept, or no entry changes. -/
theorem settle_cases (now : Int) (job : Computation κ) (o : Outcome ν) (c : ComputeCache κ ν) :
    (∃ v, o = .value v ∧ job.generation = c.generation ∧
        c.settle now job o = (c.giveUp job).keep now job.key v) ∨
      c.settle now job o = c.giveUp job := by
  by_cases hgen : job.generation = c.generation
  · cases o with
    | value v => exact Or.inl ⟨v, rfl, hgen, settle_of_value hgen⟩
    | failure reason => exact Or.inr rfl
    | fault f => exact Or.inr rfl
    | interrupted => exact Or.inr rfl
  · exact Or.inr (settle_of_stale hgen)

/-! What the end of a computation never touches. -/

section Frame

variable (now : Int) (job : Computation κ) (o : Outcome ν) (c : ComputeCache κ ν)

@[simp] theorem settle_pending : (c.settle now job o).pending = (c.giveUp job).pending := by
  rcases settle_cases now job o c with ⟨v, -, -, h⟩ | h
  · rw [h]
    rfl
  · rw [h]

@[simp] theorem settle_generation : (c.settle now job o).generation = c.generation := by
  rcases settle_cases now job o c with ⟨v, -, -, h⟩ | h <;> rw [h] <;> rfl

@[simp] theorem settle_computations : (c.settle now job o).computations = c.computations := by
  rcases settle_cases now job o c with ⟨v, -, -, h⟩ | h <;> rw [h] <;> rfl

@[simp] theorem settle_maxSize : (c.settle now job o).maxSize = c.maxSize := by
  rcases settle_cases now job o c with ⟨v, -, -, h⟩ | h <;> rw [h] <;> rfl

@[simp] theorem settle_lifetime : (c.settle now job o).lifetime = c.lifetime := by
  rcases settle_cases now job o c with ⟨v, -, -, h⟩ | h <;> rw [h] <;> rfl

end Frame

/-- An entry that is there after the end of a computation was there before under another key, or
holds the value of the computation. -/
theorem mem_settle {now : Int} {job : Computation κ} {o : Outcome ν} {c : ComputeCache κ ν}
    {e : CacheEntry κ ν} (h : e ∈ (c.settle now job o).entries) :
    e ∈ c.entries ∨
      (e.key = job.key ∧ o = .value e.value ∧ job.generation = c.generation) := by
  rcases settle_cases now job o c with ⟨v, rfl, hgen, heq⟩ | heq
  · rw [heq] at h
    rcases mem_keep h with ⟨hold, -⟩ | ⟨hkey, rfl⟩
    · exact Or.inl hold
    · exact Or.inr ⟨hkey, rfl, hgen⟩
  · rw [heq] at h
    exact Or.inl h

/-! ## One entry for each key -/

/-- No key has two entries. -/
def OnePerKey (es : List (CacheEntry κ ν)) : Prop := (es.map (·.key)).Nodup

omit [DecidableEq κ] in
theorem OnePerKey.sublist {es fs : List (CacheEntry κ ν)} (h : OnePerKey fs)
    (hsub : es.Sublist fs) : OnePerKey es :=
  List.Nodup.sublist (hsub.map _) h

omit [DecidableEq κ] in
/-- What is kept under a key is determined by the key. -/
theorem OnePerKey.eq {es : List (CacheEntry κ ν)} (h : OnePerKey es) {e f : CacheEntry κ ν}
    (he : e ∈ es) (hf : f ∈ es) (hkey : e.key = f.key) : e = f :=
  List.inj_on_of_nodup_map h he hf hkey

/-- An entry may take the place of those of its key. -/
theorem OnePerKey.without_append {es : List (CacheEntry κ ν)} (h : OnePerKey es)
    (e : CacheEntry κ ν) : OnePerKey (without e.key es ++ [e]) := by
  unfold OnePerKey
  rw [List.map_append, List.map_singleton, List.nodup_append]
  refine ⟨h.sublist (without_sublist _ _), by simp, ?_⟩
  intro key hkey _ hlast
  obtain ⟨f, hf, rfl⟩ := List.mem_map.mp hkey
  rw [List.mem_singleton.mp hlast]
  exact (mem_without.mp hf).2

theorem OnePerKey.keep {now : Int} {key : κ} {v : ν} {c : ComputeCache κ ν}
    (h : OnePerKey c.entries) : OnePerKey (c.keep now key v).entries :=
  (h.without_append ⟨key, v, now + c.lifetime⟩).sublist (List.drop_sublist _ _)

theorem OnePerKey.settle {now : Int} {job : Computation κ} {o : Outcome ν}
    {c : ComputeCache κ ν} (h : OnePerKey c.entries) :
    OnePerKey (c.settle now job o).entries := by
  rcases settle_cases now job o c with ⟨v, -, -, heq⟩ | heq
  · rw [heq]
    exact OnePerKey.keep (c := c.giveUp job) h
  · rw [heq]
    exact h

end Conformity.ComputeCache
