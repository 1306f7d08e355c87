import Conformity.Proofs.Cache.History

/-!
# What a cache remembers

A cache that is used by one caller after another holds, at any time, values of the last computations of
their keys, in the order in which the keys were last stored or hit (`Recalls`). A value that was computed
and not invalidated is missing only if it has expired or if the cache was too small for the keys that
were used since. So the history decides which look-ups compute (`remembers_recent`).
-/

namespace Conformity.ComputeCache

variable {κ ν : Type} [DecidableEq κ]

/-- The entries of a cache agree with what happened, the last effect first, and with the times that were
shown. -/
structure Recalls (c : ComputeCache κ ν) (past : List (Effect κ ν)) (shown : List Int) : Prop where
  idle : c.pending = []
  roomy : 0 < c.maxSize
  room : c.entries.length ≤ c.maxSize
  /-- What is kept is the value of the last computation of its key. -/
  source : ∀ x ∈ c.entries,
    ∃ time, lastStored? x.key past = some (x.value, time) ∧ x.expires = time + c.lifetime
  /-- Entries stand in the order of the last uses of their keys. -/
  order : c.entries.Pairwise fun x y => y.key ∈ usedSince x.key past
  /-- What is not kept has expired, or the cache was too small for it. -/
  known : ∀ {key : κ} {v : ν} {time : Int}, lastStored? key past = some (v, time) →
    (∃ x ∈ c.entries, x.key = key) ∨ (∃ r ∈ shown, time + c.lifetime ≤ r) ∨
      Crowded c.maxSize key past

variable {c c' : ComputeCache κ ν} {past : List (Effect κ ν)} {shown shown' : List Int} {key : κ}
  {now : Int} {e : Effect κ ν} {x : CacheEntry κ ν} {xs : List (CacheEntry κ ν)} {job : Computation κ}

/-! ## Keys -/

/-- Entries in the order of the last uses of their keys have different keys. -/
theorem onePerKey_of_order (h : xs.Pairwise fun x y => y.key ∈ usedSince x.key past) :
    OnePerKey xs := by
  refine List.pairwise_map.mpr (h.imp fun {x y} hy heq => ?_)
  rw [← heq] at hy
  exact not_mem_usedSince_self x.key past hy

/-- A key is as crowded as there are entries of keys that were used since it was. -/
theorem crowded_of_entries (hone : OnePerKey xs) (h : ∀ x ∈ xs, x.key ∈ usedSince key past) :
    Crowded xs.length key past := by
  have hkeys : (xs.map (·.key)).toFinset ⊆ (usedSince key past).toFinset := by
    intro k hk
    obtain ⟨x, hx, rfl⟩ := List.mem_map.mp (List.mem_toFinset.mp hk)
    exact List.mem_toFinset.mpr (h x hx)
  calc xs.length = (xs.map (·.key)).toFinset.card := by
        rw [List.toFinset_card_of_nodup hone, List.length_map]
    _ ≤ (usedSince key past).toFinset.card := Finset.card_le_card hkeys

/-- What is dropped from the front of a list for lack of room makes its key crowded. -/
theorem mem_drop_or_crowded {size : Nat}
    (order : xs.Pairwise fun x y => y.key ∈ usedSince x.key past) (hx : x ∈ xs) :
    x ∈ xs.drop (xs.length - size) ∨ Crowded size x.key past := by
  rw [← List.take_append_drop (xs.length - size) xs, List.mem_append] at hx
  rcases hx with hx | hx
  · right
    have hlength : (xs.drop (xs.length - size)).length = size := by
      have := List.length_pos_of_mem hx
      rw [List.length_take] at this
      rw [List.length_drop]
      omega
    have hone := (onePerKey_of_order order).sublist (List.drop_sublist (xs.length - size) xs)
    rw [← List.take_append_drop (xs.length - size) xs, List.pairwise_append] at order
    rw [← hlength]
    exact crowded_of_entries hone fun y hy => order.2.2 x hx y hy
  · exact .inl hx

namespace Recalls

/-- A cache without values has nothing to recall. -/
theorem start (hidle : c.pending = []) (hroomy : 0 < c.maxSize) (hentries : c.entries = []) :
    Recalls c [] [] := by
  refine ⟨hidle, hroomy, ?_, ?_, ?_, nofun⟩ <;> rw [hentries]
  · exact Nat.zero_le _
  · simp
  · exact .nil

/-! ## One effect more -/

/-- An entry is stored or hit: it comes last, and what has no room any more is dropped. -/
theorem place (h : Recalls c past shown) (hused : e.used? = some x.key)
    (hsource : ∃ time, lastStored? x.key (e :: past) = some (x.value, time) ∧
      x.expires = time + c.lifetime)
    (hentries : c'.entries = (without x.key c.entries ++ [x]).drop
      ((without x.key c.entries ++ [x]).length - c.maxSize))
    (hsize : c'.maxSize = c.maxSize) (hlifetime : c'.lifetime = c.lifetime) (hidle : c'.pending = [])
    (hshown : shown ⊆ shown') : Recalls c' (e :: past) shown' := by
  -- the entries before any of them is dropped
  generalize hxs : without x.key c.entries ++ [x] = xs at hentries
  have hother : ∀ y ∈ without x.key c.entries, x.key ≠ y.key ∧ y ∈ c.entries :=
    fun y hy => ⟨(mem_without.mp hy).2.symm, (mem_without.mp hy).1⟩
  have horder : xs.Pairwise fun y z => z.key ∈ usedSince y.key (e :: past) := by
    rw [← hxs, List.pairwise_append]
    refine ⟨(h.order.sublist (without_sublist _ _)).imp_of_mem fun {y z} hy _ hz => ?_,
      List.pairwise_singleton _ _, fun y hy z hz => ?_⟩
    · rw [usedSince_of_used hused (hother y hy).1]
      exact List.mem_cons_of_mem _ hz
    · rw [List.mem_singleton.mp hz, usedSince_of_used hused (hother y hy).1]
      exact List.mem_cons_self
  have hkept : ∀ y ∈ xs, y ∈ c'.entries ∨ Crowded c'.maxSize y.key (e :: past) := by
    intro y hy
    rw [hentries, hsize]
    exact mem_drop_or_crowded horder hy
  have hmem : ∀ y ∈ without x.key c.entries, y ∈ xs := fun y hy => hxs ▸ List.mem_append_left _ hy
  refine ⟨hidle, hsize ▸ h.roomy, ?_, fun y hy => ?_, ?_, fun {k v time} hk => ?_⟩
  · rw [hentries, hsize, List.length_drop]
    omega
  · rw [hlifetime]
    rw [hentries] at hy
    have hy := List.mem_of_mem_drop hy
    rw [← hxs, List.mem_append] at hy
    rcases hy with hy | hy
    · obtain ⟨time, hstored, hexpires⟩ := h.source y (hother y hy).2
      exact ⟨time, (lastStored?_of_used hused (hother y hy).1).trans hstored, hexpires⟩
    · rw [List.mem_singleton.mp hy]
      exact hsource
  · rw [hentries]
    exact horder.sublist (List.drop_sublist _ _)
  · by_cases hkey : x.key = k
    · -- the entry itself stands last, so that it is not dropped
      rcases hkept x (hxs ▸ List.mem_append_right _ (List.mem_singleton_self x)) with hx | hcrowded
      · exact .inl ⟨x, hx, hkey⟩
      · have hroomy := h.roomy
        unfold Crowded at hcrowded
        rw [usedSince_of_self hused, List.toFinset_nil, Finset.card_empty] at hcrowded
        omega
    · rw [lastStored?_of_used hused hkey] at hk
      rcases h.known hk with ⟨y, hy, rfl⟩ | ⟨r, hr, hle⟩ | hcrowded
      · rcases hkept y (hmem y (mem_without.mpr ⟨hy, Ne.symm hkey⟩)) with hin | hcrowded
        · exact .inl ⟨y, hin, rfl⟩
        · exact .inr (.inr hcrowded)
      · exact .inr (.inl ⟨r, hshown hr, hlifetime ▸ hle⟩)
      · exact .inr (.inr (hsize ▸ hcrowded.used hused hkey))

/-- The entry of a key goes, and what was stored under the key has expired or is not counted any more. -/
theorem remove (h : Recalls c past shown) (hunused : e.used? = none)
    (hother : ∀ k ≠ key, lastStored? k (e :: past) = lastStored? k past)
    (hself : ∀ {v : ν} {time : Int}, lastStored? key (e :: past) = some (v, time) →
      (∃ r ∈ shown', time + c.lifetime ≤ r) ∨ Crowded c.maxSize key past)
    (hentries : c'.entries = without key c.entries) (hsize : c'.maxSize = c.maxSize)
    (hlifetime : c'.lifetime = c.lifetime) (hidle : c'.pending = []) (hshown : shown ⊆ shown') :
    Recalls c' (e :: past) shown' := by
  have hsub : c'.entries.Sublist c.entries := hentries ▸ without_sublist _ _
  refine ⟨hidle, hsize ▸ h.roomy, ?_, fun y hy => ?_, ?_, fun {k v time} hk => ?_⟩
  · rw [hsize]
    exact hsub.length_le.trans h.room
  · rw [hentries] at hy
    obtain ⟨hy, hne⟩ := mem_without.mp hy
    rw [hother _ hne, hlifetime]
    exact h.source y hy
  · refine (h.order.sublist hsub).imp fun {y z} hz => ?_
    rwa [usedSince_of_unused hunused]
  · rw [hsize, hlifetime]
    by_cases hkey : k = key
    · subst hkey
      exact .inr ((hself hk).imp_right fun hcrowded => hcrowded.unused hunused)
    · rw [hother k hkey] at hk
      rcases h.known hk with ⟨y, hy, rfl⟩ | ⟨r, hr, hle⟩ | hcrowded
      · exact .inl ⟨y, hentries ▸ mem_without.mpr ⟨hy, hkey⟩, rfl⟩
      · exact .inr (.inl ⟨r, hshown hr, hle⟩)
      · exact .inr (.inr (hcrowded.unused hunused))

/-- Nothing happens to the entries. -/
theorem idly (h : Recalls c past shown) (hunused : e.used? = none)
    (hsame : ∀ k, lastStored? k (e :: past) = lastStored? k past) (hshown : shown ⊆ shown') :
    Recalls c (e :: past) shown' := by
  refine ⟨h.idle, h.roomy, h.room, fun y hy => ?_, h.order.imp fun {y z} hz => ?_,
    fun {k v time} hk => ?_⟩
  · rw [hsame]
    exact h.source y hy
  · rwa [usedSince_of_unused hunused]
  · rw [hsame] at hk
    exact (h.known hk).imp_right <| Or.imp (fun ⟨r, hr, hle⟩ => ⟨r, hshown hr, hle⟩)
      fun hcrowded => hcrowded.unused hunused

/-! ## One use more -/

/-- Nobody computes while the cache is not in use. -/
theorem not_running (h : Recalls c past shown) {n : Nat} (hc' : c.lookUp now key = (.running n, c')) :
    False := by
  have hlookup := (lookUp_running hc').1
  rw [h.idle] at hlookup
  cases hlookup

theorem hit (h : Recalls c past shown) {v : ν} (hc' : c.lookUp now key = (.value v, c'))
    (hshown : shown ⊆ shown') : Recalls c' (.hit key v :: past) shown' := by
  obtain ⟨x, hx, rfl, rfl, -, rfl⟩ := lookUp_value hc'
  have hlength : (without x.key c.entries ++ [x]).length ≤ c.maxSize := by
    have hlt : (without x.key c.entries).length < c.entries.length :=
      List.length_filter_lt_length_iff_exists.mpr ⟨x, hx, by simp⟩
    have hroom := h.room
    rw [List.length_append, List.length_singleton]
    omega
  refine h.place rfl (h.source x hx) ?_ rfl rfl h.idle hshown
  rw [Nat.sub_eq_zero_of_le hlength, List.drop_zero]

end Recalls

/-- A look-up computes only if the entry of the key has expired. -/
theorem expires_le_of_absent (h : c.lookUp now key = (.absent job, c')) (hx : c.kept? key = some x) :
    x.expires ≤ now := by
  unfold lookUp at h
  rw [hx] at h
  dsimp only at h
  split at h
  · cases h
  · next hlive => exact Int.not_lt.mp hlive

/-- A look-up finds the entry of a key that has not expired. -/
theorem lookUp_of_live (hx : c.kept? key = some x) (hlive : now < x.expires) :
    (c.lookUp now key).1 = .value x.value := by
  unfold lookUp
  rw [hx]
  dsimp only
  rw [if_pos hlive]

theorem exists_kept? (h : ∃ x ∈ c.entries, x.key = key) : ∃ x, c.kept? key = some x := by
  rw [← Option.isSome_iff_exists, ← Option.ne_none_iff_isSome]
  intro hnone
  obtain ⟨x, hx, hkey⟩ := h
  exact kept?_eq_none.mp hnone x hx hkey

namespace Recalls

/-- After a look-up that has to compute, and whatever comes of it, only the entry of the key is gone. -/
theorem giveUp_of_absent (h : Recalls c past shown) (hc' : c.lookUp now key = (.absent job, c')) :
    job.key = key ∧ job.generation = c'.generation ∧ c'.giveUp job =
      { c with entries := without key c.entries, computations := c.computations + 1 } := by
  obtain ⟨-, rfl, rfl⟩ := lookUp_absent hc'
  refine ⟨rfl, rfl, ?_⟩
  unfold giveUp
  simp [h.idle]

theorem stored (h : Recalls c past shown) {v : ν} {ended : Int}
    (hc' : c.lookUp now key = (.absent job, c')) (hshown : shown ⊆ shown') :
    Recalls (c'.settle ended job (.value v)) (.stored key v ended :: past) shown' := by
  obtain ⟨hkey, hgeneration, hgiveUp⟩ := h.giveUp_of_absent hc'
  have hwithout : without key (without key c.entries) = without key c.entries :=
    without_eq_self fun y hy => (mem_without.mp hy).2
  rw [settle_of_value hgeneration, hgiveUp, hkey]
  refine h.place (x := ⟨key, v, ended + c.lifetime⟩) rfl ⟨ended, if_pos rfl, rfl⟩ ?_ rfl rfl h.idle hshown
  unfold keep
  dsimp only
  rw [hwithout]

/-- A computation that fails leaves the cache without an entry of its key, which had none or an expired
one. -/
theorem failed (h : Recalls c past shown) {outcome : Outcome ν} {ended : Int}
    (hc' : c.lookUp now key = (.absent job, c')) (houtcome : ∀ v, outcome ≠ .value v)
    (hshown : shown ⊆ shown') (hnow : now ∈ shown') :
    Recalls (c'.settle ended job outcome) (.failed key :: past) shown' := by
  have hexpired : ∀ {v : ν} {time : Int}, lastStored? key past = some (v, time) →
      (∃ r ∈ shown', time + c.lifetime ≤ r) ∨ Crowded c.maxSize key past := by
    intro v time hstored
    rcases h.known hstored with hentry | ⟨r, hr, hle⟩ | hcrowded
    · obtain ⟨x, hx⟩ := exists_kept? hentry
      obtain ⟨hmem, rfl⟩ := mem_of_kept? hx
      obtain ⟨time', hstored', hexpires⟩ := h.source x hmem
      rw [hstored] at hstored'
      cases hstored'
      exact .inl ⟨now, hnow, hexpires ▸ expires_le_of_absent hc' hx⟩
    · exact .inl ⟨r, hshown hr, hle⟩
    · exact .inr hcrowded
  rw [settle_of_failed houtcome, (h.giveUp_of_absent hc').2.2]
  exact h.remove rfl (fun k _ => rfl) hexpired rfl rfl rfl h.idle hshown

theorem dropped (h : Recalls c past shown) (key : κ) (hshown : shown ⊆ shown') :
    Recalls (c.invalidate key) (.dropped key :: past) shown' :=
  h.remove rfl (fun _ hk => if_neg (Ne.symm hk)) (fun hk => by simp [lastStored?] at hk) rfl rfl rfl
    h.idle hshown

theorem emptied (h : Recalls c past shown) : Recalls c.invalidateAll (.emptied :: past) shown' :=
  ⟨rfl, h.roomy, Nat.zero_le _, by simp [invalidateAll], .nil, nofun⟩

/-- What holds of a cache holds after one more use. -/
theorem serve (h : Recalls c past shown) (u : Use κ ν) :
    Recalls (c.serve u).2 ((c.serve u).1 :: past) (shown ++ u.readings) := by
  have hshown : shown ⊆ shown ++ u.readings := List.subset_append_left _ _
  cases u with
  | ask key now outcome ended =>
      generalize hserve : c.serve (.ask key now outcome ended) = r
      cases asked hserve with
      | hit hc' => exact h.hit hc' hshown
      | joined hc' => exact (h.not_running hc').elim
      | computed hc' =>
          rcases Effect.ofOutcome_cases key ended outcome with ⟨v, rfl, heq⟩ | ⟨hfailed, heq⟩
          · exact h.stored hc' hshown
          · rw [heq]
            exact h.failed hc' hfailed hshown (List.mem_append_right _ List.mem_cons_self)
  | peek key now => exact h.idly rfl (fun _ => rfl) hshown
  | invalidate key => exact h.dropped key hshown
  | invalidateAll => exact h.emptied

/-- What a cache recalls after some uses. -/
theorem after (h : Recalls c [] []) (us : List (Use κ ν)) :
    Recalls (c.after us) (c.past us) (us.flatMap Use.readings) := by
  induction us using List.reverseRecOn with
  | nil => exact h
  | append_singleton us u ih =>
      rw [after_concat, past_concat, List.flatMap_append, List.flatMap_singleton]
      exact ih.serve u

/-- A value that has not expired and is not crowded out is found. -/
theorem lookUp_recent (h : Recalls c past shown) {v : ν} {time : Int}
    (hstored : lastStored? key past = some (v, time)) (hshown : ∀ r ∈ shown, r ≤ now)
    (hlive : now < time + c.lifetime) (huncrowded : ¬ Crowded c.maxSize key past) :
    (c.lookUp now key).1 = .value v := by
  rcases h.known hstored with hentry | ⟨r, hr, hle⟩ | hcrowded
  · obtain ⟨x, hx⟩ := exists_kept? hentry
    obtain ⟨hmem, rfl⟩ := mem_of_kept? hx
    obtain ⟨time', hstored', hexpires⟩ := h.source x hmem
    rw [hstored] at hstored'
    cases hstored'
    exact lookUp_of_live hx (hexpires ▸ hlive)
  · have := hshown r hr
    omega
  · exact absurd hcrowded huncrowded

/-- What is found is the value that was computed last, and has not expired. -/
theorem stored_of_lookUp (h : Recalls c past shown) {v : ν} (hv : (c.lookUp now key).1 = .value v) :
    ∃ time, lastStored? key past = some (v, time) ∧ now < time + c.lifetime := by
  obtain ⟨x, hx, rfl, rfl, hlive, -⟩ := lookUp_value (Prod.ext hv rfl)
  obtain ⟨time, hstored, hexpires⟩ := h.source x hx
  exact ⟨time, hstored, hexpires ▸ hlive⟩

end Recalls

/-! ## After any uses -/

/-- What holds of a cache of a size, which keeps values for a lifetime, after some uses. -/
structure Remembers (size lifetime : Int) (cache : ComputeCache κ ν) (us : List (Use κ ν)) : Prop where
  /-- The cache holds no more values than it has room for. -/
  room : ((cache.after us).entries.length : Int) ≤ size
  /-- What is replied without a computation is the value of the last computation that ended with one,
  which was not invalidated since and has not expired. -/
  hit : ∀ {key : κ} {now ended : Int} {outcome : Outcome ν} {v : ν},
    ((cache.after us).serve (.ask key now outcome ended)).1 = .hit key v →
      ∃ time, lastStored? key (cache.past us) = some (v, time) ∧ now < time + lifetime
  /-- This value is replied if fewer other keys than there is room for were stored or hit since the key
  was, at any time that is not before the times that the clock has shown. -/
  recent : ∀ {key : κ} {v : ν} {time now : Int} (outcome : Outcome ν) (ended : Int),
    lastStored? key (cache.past us) = some (v, time) → now < time + lifetime →
      ((usedSince key (cache.past us)).toFinset.card : Int) < size →
        (∀ r ∈ us.flatMap Use.readings, r ≤ now) →
          ((cache.after us).serve (.ask key now outcome ended)).1 = .hit key v
  /-- What does not find a value computes. -/
  alone : ∀ {key : κ} {now ended : Int} {outcome : Outcome ν},
    ((cache.after us).serve (.ask key now outcome ended)).1 ≠ .joined key
  /-- A peek sees a value exactly if asking at the same time would find it, -/
  peek : ∀ {key : κ} {now ended : Int} {outcome : Outcome ν} {v : ν},
    (cache.after us).peek now key = some v ↔
      ((cache.after us).serve (.ask key now outcome ended)).1 = .hit key v
  /-- and changes nothing of what comes of the other uses. -/
  unnoticed : ∀ later : List (Use κ ν), (cache.after us).effects (later.filter (!·.isPeek)) =
    ((cache.after us).effects later).filter (!·.isPeeked)
  /-- A computation that fails adds no value. -/
  failed : ∀ {key : κ} {now ended : Int} {outcome : Outcome ν},
    ((cache.after us).serve (.ask key now outcome ended)).1 = .failed key →
      ((cache.after us).serve (.ask key now outcome ended)).2.entries.Sublist
        (cache.after us).entries

/-- A failed computation leaves the entries without that of its key. -/
theorem sublist_of_failed {outcome : Outcome ν} {ended : Int}
    (h : (c.serve (.ask key now outcome ended)).1 = .failed key) :
    (c.serve (.ask key now outcome ended)).2.entries.Sublist c.entries := by
  revert h
  generalize hserve : c.serve (.ask key now outcome ended) = r
  intro h
  cases asked hserve with
  | hit => cases h
  | joined => cases h
  | computed hc' =>
      rcases Effect.ofOutcome_cases key ended outcome with ⟨v, -, heq⟩ | ⟨hfailed, -⟩
      · rw [heq] at h
        cases h
      · obtain ⟨-, rfl, rfl⟩ := lookUp_absent hc'
        rw [settle_of_failed hfailed]
        exact without_sublist _ _

/-- A cache with room for a value at least forgets only what has expired, and what was not used for the
longest time where there is no room. -/
theorem remembers_recent {size : Int} (hsize : 1 ≤ size) (name : String) (lifetime : Int) :
    ∃ cache, make? κ ν name size lifetime = some cache ∧ ∀ us, Remembers size lifetime cache us := by
  refine ⟨_, if_neg (by omega), fun us => ?_⟩
  generalize hcache : ({ name, maxSize := size.toNat, lifetime } : ComputeCache κ ν) = cache
  have hroom : (cache.maxSize : Int) = size := by
    rw [← hcache]
    exact Int.toNat_of_nonneg (by omega)
  have hlifetime : cache.lifetime = lifetime := hcache ▸ rfl
  have hstart : Recalls cache [] [] := .start (hcache ▸ rfl) (by omega) (hcache ▸ rfl)
  obtain ⟨hsizes, hlifetimes⟩ := after_limits cache us
  have hrecalls := hstart.after us
  refine ⟨?_, fun h => ?_, fun outcome ended hstored hlive hcrowd hshown => ?_, ?_, ?_, ?_, ?_⟩
  · have := hrecalls.room
    omega
  · rw [← hlifetime, ← hlifetimes]
    exact hrecalls.stored_of_lookUp (serve_eq_hit.mp h)
  · refine serve_eq_hit.mpr (hrecalls.lookUp_recent hstored hshown (by omega) ?_)
    unfold Crowded
    omega
  · intro key now ended outcome
    generalize hserve : (cache.after us).serve (.ask key now outcome ended) = r
    cases asked hserve with
    | hit => simp
    | joined h => exact (hrecalls.not_running h).elim
    | computed => cases outcome <;> simp [Effect.ofOutcome]
  · exact peek_eq_some.trans serve_eq_hit.symm
  · exact effects_filter_peeks _
  · exact sublist_of_failed

/-- Three keys in a cache for two of them, of which the first expires. -/
def threeForTwo : List (Use Nat Nat) :=
  [.ask 1 0 (.value 10) 1, .ask 2 2 (.value 20) 3, .peek 2 4, .ask 1 5 (.value 11) 5,
    .ask 3 6 (.value 30) 7, .ask 2 8 (.failure "gone") 9, .ask 1 61 (.value 12) 62]

/-- The key that was not used for the longest time is computed again, and so is the one that has expired. -/
theorem remembers_two_of_three : ∃ cache : ComputeCache Nat Nat,
    make? Nat Nat "results" 2 60 = some cache ∧ Remembers 2 60 cache threeForTwo ∧
      cache.effects threeForTwo = [.stored 1 10 1, .stored 2 20 3, .peeked 2 (some 20), .hit 1 10,
        .stored 3 30 7, .failed 2, .stored 1 12 62] := by
  obtain ⟨cache, hmade, hall⟩ :=
    remembers_recent (κ := Nat) (ν := Nat) (by decide : (1 : Int) ≤ 2) "results" 60
  refine ⟨cache, hmade, hall threeForTwo, ?_⟩
  cases hmade
  rfl

end Conformity.ComputeCache
