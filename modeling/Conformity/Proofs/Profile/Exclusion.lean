import Conformity.Proofs.Profile.Editors

/-!
# No edit is lost

The lock keeps calls apart (`Editors.Exclusive`): what a call has read is still there when it writes,
and what it has written is still there when it publishes. So the document is what the edits that were
written make of the first one, in the order in which their calls got the lock; and whenever the lock is
free, what is served is the document of the moment (`Editors.no_edit_lost`).

What a step does to the document and to what is served is told once (`Editors.Step.effect`).
-/

namespace Conformity.Registry.Editors

open ProfileStore

variable {ι : Type} [DecidableEq ι] {store : ProfileStore} {w w' : Editors ι}

section Publishing

variable (d : Except Failure ProfilesDocument)

theorem locked_reloaded (st : RegistryState) : (reloaded d st).2.locked = st.locked := by
  cases d with
  | error e => rfl
  | ok d =>
      unfold reloaded
      dsimp only
      cases Snapshot.ofDocument d <;> rfl

theorem disk_reloaded (st : RegistryState) : (reloaded d st).2.disk = st.disk := by
  cases d with
  | error e => rfl
  | ok d =>
      unfold reloaded
      dsimp only
      cases Snapshot.ofDocument d <;> rfl

theorem stage_publish_self (c : ι) (errand : Errand) (wrote : Option Data.Fields) :
    (w.publish c errand wrote d).stage c =
      .leaving errand wrote ((reloaded d w.registry).1.map fun _ => errand.change?) :=
  Function.update_self ..

theorem stage_publish_of_ne {c c' : ι} (h : c' ≠ c) (errand : Errand) (wrote : Option Data.Fields) :
    (w.publish c errand wrote d).stage c' = w.stage c' :=
  Function.update_of_ne h ..

end Publishing

/-! ## Who has written -/

omit [DecidableEq ι] in
theorem written_congr (turns : w'.turns = w.turns)
    (wrote : ∀ c, (w'.stage c).wrote? = (w.stage c).wrote?) : w'.written = w.written := by
  unfold written
  simp only [turns, wrote]

theorem wrote?_setStage {c : ι} {x : Stage} (h : x.wrote? = (w.stage c).wrote?) (c' : ι) :
    ((w.setStage c x).stage c').wrote? = (w.stage c').wrote? := by
  rcases eq_or_ne c' c with rfl | hne
  · rw [setStage_stage_self, h]
  · rw [setStage_stage_of_ne hne]

theorem written_setStage {c : ι} {x : Stage} (h : x.wrote? = (w.stage c).wrote?) :
    (w.setStage c x).written = w.written :=
  written_congr rfl (wrote?_setStage h)

/-- Who has got the lock last and writes is the last to have written. -/
theorem written_setStage_of_last {c : ι} {x : Stage} {e : Edit × Data.Fields}
    (nodup : w.turns.Nodup) (last : w.turns.getLast? = some c) (hc : (w.stage c).wrote? = none)
    (hx : x.wrote? = some e) :
    (w.setStage c x).written = w.written ++ [(c, e)] := by
  obtain ⟨cs, hturns⟩ := List.getLast?_eq_some_iff.mp last
  have hearlier : ∀ c' ∈ cs, ((w.setStage c x).stage c').wrote? = (w.stage c').wrote? := by
    rintro c' hc'
    have hne : c' ≠ c := by
      rintro rfl
      rw [hturns, List.nodup_append] at nodup
      exact nodup.2.2 _ hc' _ (List.mem_singleton_self _) rfl
    rw [setStage_stage_of_ne hne]
  have hcongr : cs.filterMap (fun c' => ((w.setStage c x).stage c').wrote?.map (c', ·)) =
      cs.filterMap fun c' => (w.stage c').wrote?.map (c', ·) :=
    List.filterMap_congr fun c' hc' => by rw [hearlier c' hc']
  unfold written
  rw [setStage_turns, hturns, List.filterMap_append, List.filterMap_append, hcongr]
  simp [hc, hx]

/-! ## One call at a time -/

theorem isInside_of_isEditing {x : Stage} (h : x.isEditing = true) : x.isInside = true := by
  cases x <;> first | rfl | cases h

/-- Whoever is inside holds the lock and is alone there. A call waits for the lock once, and while it
is about to write, it is the last that has got the lock. -/
structure Exclusive (w : Editors ι) : Prop where
  held : ∀ {c : ι}, (w.stage c).isInside = true → w.registry.locked = true
  alone : ∀ {c c' : ι}, (w.stage c).isInside = true → (w.stage c').isInside = true → c' = c
  nodup : w.turns.Nodup
  past : ∀ {c : ι}, c ∈ w.turns → (w.stage c).isPast = true
  latest : ∀ {c : ι}, (w.stage c).isEditing = true → w.turns.getLast? = some c
  wrote : ∀ {c : ι} {e : Edit × Data.Fields}, (w.stage c).wrote? = some e → c ∈ w.turns

namespace Exclusive

/-- A call goes on from a stage to a later one, and has written only if it was about to write. -/
structure GoesOn (x y : Stage) : Prop where
  past : x.isPast = true → y.isPast = true
  editing : y.isEditing = true → x.isEditing = true
  wrote : ∀ {e : Edit × Data.Fields}, y.wrote? = some e → x.isEditing = true ∨ x.wrote? = some e

section Inside

omit [DecidableEq ι]

theorem eq_false_of_free (inv : Exclusive w) (free : w.registry.locked = false) (c : ι) :
    (w.stage c).isInside = false := by
  by_contra h
  rw [Bool.not_eq_false] at h
  rw [inv.held h] at free
  cases free

theorem start (disk : Disk) (snapshot : Snapshot) :
    Exclusive (.start disk snapshot : Editors ι) where
  held := fun h => (nomatch h)
  alone := fun h => (nomatch h)
  nodup := List.nodup_nil
  past := fun h => (nomatch h)
  latest := fun h => (nomatch h)
  wrote := fun h => (nomatch h)

end Inside

variable {c : ι} {x : Stage} {st : RegistryState}

/-- A call goes on, and the lock is still in order. -/
theorem change (inv : Exclusive w) (h : GoesOn (w.stage c) x)
    (inside : ∀ {c'}, (((w.setRegistry st).setStage c x).stage c').isInside = true →
      st.locked = true ∧
        ∀ {c''}, (((w.setRegistry st).setStage c x).stage c'').isInside = true → c'' = c') :
    Exclusive ((w.setRegistry st).setStage c x) := by
  have hself : ((w.setRegistry st).setStage c x).stage c = x := setStage_stage_self ..
  have hother : ∀ {c'}, c' ≠ c → ((w.setRegistry st).setStage c x).stage c' = w.stage c' :=
    fun hne => setStage_stage_of_ne hne ..
  refine ⟨fun hc => (inside hc).1, fun hc hc' => (inside hc).2 hc', inv.nodup, ?_, ?_, ?_⟩
  · intro c' hc'
    rcases eq_or_ne c' c with rfl | hne
    · rw [hself]
      exact h.past (inv.past hc')
    · rw [hother hne]
      exact inv.past hc'
  · intro c' hc'
    rcases eq_or_ne c' c with rfl | hne
    · rw [hself] at hc'
      exact inv.latest (h.editing hc')
    · rw [hother hne] at hc'
      exact inv.latest hc'
  · intro c' e hc'
    rcases eq_or_ne c' c with rfl | hne
    · rw [hself] at hc'
      rcases h.wrote hc' with hediting | hwrote
      · exact List.mem_of_getLast? (inv.latest hediting)
      · exact inv.wrote hwrote
    · rw [hother hne] at hc'
      exact inv.wrote hc'

/-- A call goes on, on its side of the lock. -/
theorem goOn (inv : Exclusive w) (locked : st.locked = w.registry.locked)
    (inside : x.isInside = (w.stage c).isInside) (h : GoesOn (w.stage c) x) :
    Exclusive ((w.setRegistry st).setStage c x) := by
  have hinside : ∀ c', (((w.setRegistry st).setStage c x).stage c').isInside =
      (w.stage c').isInside := by
    intro c'
    rcases eq_or_ne c' c with rfl | hne
    · rw [setStage_stage_self, inside]
    · rw [setStage_stage_of_ne hne]
      rfl
  refine inv.change h fun {c'} hc' => ⟨?_, fun {c''} hc'' => ?_⟩
  · rw [hinside] at hc'
    exact locked.trans (inv.held hc')
  · rw [hinside] at hc' hc''
    exact inv.alone hc' hc''

/-- Who enters when the lock is free is alone inside. -/
theorem only (inv : Exclusive w) (free : w.registry.locked = false) {stage : ι → Stage}
    (hstage : stage = Function.update w.stage c x) {c' : ι} (hc' : (stage c').isInside = true) :
    c' = c := by
  by_contra hne
  rw [hstage, Function.update_of_ne hne, inv.eq_false_of_free free] at hc'
  cases hc'

theorem enter (inv : Exclusive w) (free : w.registry.locked = false)
    (hc : (w.stage c).isPast = false) (hx : x.isPast = true) (hwrote : x.wrote? = none) :
    Exclusive (w.enter c x) := by
  have hself : (w.enter c x).stage c = x := setStage_stage_self ..
  have hother : ∀ {c'}, c' ≠ c → (w.enter c x).stage c' = w.stage c' :=
    fun hne => setStage_stage_of_ne hne ..
  have honly : ∀ {c'}, ((w.enter c x).stage c').isInside = true → c' = c :=
    inv.only free rfl
  -- who has had a turn is past waiting, so the turns stay without repetition
  have hnew : c ∉ w.turns := by
    intro hmem
    rw [inv.past hmem] at hc
    cases hc
  refine ⟨fun _ => rfl, fun h h' => (honly h').trans (honly h).symm, ?_, ?_, ?_, ?_⟩
  · refine List.nodup_append.mpr ⟨inv.nodup, List.nodup_singleton c, ?_⟩
    rintro a ha b hb rfl
    exact hnew (List.mem_singleton.mp hb ▸ ha)
  · intro c' hc'
    rcases eq_or_ne c' c with rfl | hne
    · rw [hself, hx]
    · rw [hother hne]
      rcases List.mem_append.mp hc' with hmem | hmem
      · exact inv.past hmem
      · exact absurd (List.mem_singleton.mp hmem) hne
  · intro c' hc'
    obtain rfl := honly (isInside_of_isEditing hc')
    exact List.getLast?_concat ..
  · intro c' e hc'
    rcases eq_or_ne c' c with rfl | hne
    · rw [hself, hwrote] at hc'
      cases hc'
    · rw [hother hne] at hc'
      exact List.mem_append_left _ (inv.wrote hc')

/-- Who is inside takes the lock along when it leaves. -/
theorem leave (inv : Exclusive w) (hc : (w.stage c).isInside = true) (hx : x.isInside = false)
    (h : GoesOn (w.stage c) x) : Exclusive ((w.setRegistry st).setStage c x) := by
  refine inv.change h fun {c'} hc' => ?_
  rcases eq_or_ne c' c with rfl | hne
  · rw [setStage_stage_self, hx] at hc'
    cases hc'
  · rw [setStage_stage_of_ne hne] at hc'
    exact absurd (inv.alone hc hc') hne

theorem reenter (inv : Exclusive w) (free : w.registry.locked = false) (locked : st.locked = true)
    (h : GoesOn (w.stage c) x) : Exclusive ((w.setRegistry st).setStage c x) :=
  inv.change h fun hc' =>
    ⟨locked, fun hc'' => (inv.only free rfl hc'').trans (inv.only free rfl hc').symm⟩

omit [DecidableEq ι] in
/-- What a call has written stays what it was when the call does not write. -/
theorem GoesOn.of_wrote {x y : Stage} (past : x.isPast = true → y.isPast = true)
    (editing : y.isEditing = false) (wrote : y.wrote? = x.wrote?) : GoesOn x y := by
  refine ⟨past, fun h => ?_, fun h => .inr (wrote ▸ h)⟩
  rw [editing] at h
  cases h

/-- The lock keeps calls apart. -/
theorem step (inv : Exclusive w) (step : Step store w w') : Exclusive w' := by
  cases step with
  | ask unmade =>
      exact inv.goOn rfl (by rw [unmade]; rfl) (.of_wrote (by rw [unmade]; exact nofun) rfl
        (by rw [unmade]; rfl))
  | refuse unmade _ =>
      exact inv.goOn rfl (by rw [unmade]; rfl) (.of_wrote (fun _ => rfl) rfl (by rw [unmade]; rfl))
  | turnAway unmade _ =>
      exact inv.goOn rfl (by rw [unmade]; rfl) (.of_wrote (fun _ => rfl) rfl (by rw [unmade]; rfl))
  | enter waiting free => exact inv.enter free (by rw [waiting]; rfl) rfl rfl
  | enterReload unmade free => exact inv.enter free (by rw [unmade]; rfl) rfl rfl
  | read entered _ =>
      refine inv.goOn rfl (by rw [entered]; rfl) ⟨fun _ => rfl, fun _ => ?_, nofun⟩
      rw [entered]
      rfl
  | unread entered _ =>
      exact inv.goOn rfl (by rw [entered]; rfl)
        (.of_wrote (fun _ => rfl) rfl (by rw [entered]; rfl))
  | absent opened _ =>
      exact inv.goOn rfl (by rw [opened]; rfl) (.of_wrote (fun _ => rfl) rfl (by rw [opened]; rfl))
  | write opened _ _ =>
      refine inv.goOn rfl (by rw [opened]; rfl) ⟨fun _ => rfl, nofun, fun _ => .inl ?_⟩
      rw [opened]
      rfl
  | unwritten opened _ _ =>
      exact inv.goOn rfl (by rw [opened]; rfl) (.of_wrote (fun _ => rfl) rfl (by rw [opened]; rfl))
  | @load c errand wrote reloading =>
      refine inv.goOn rfl (by rw [reloading]; rfl) (.of_wrote (fun _ => rfl) rfl ?_)
      rw [reloading]
      cases errand <;> rfl
  | @publish c errand wrote d loaded =>
      have hmoved : Exclusive ((w.setRegistry (reloaded d w.registry).2).setStage c
          (.leaving errand wrote ((reloaded d w.registry).1.map fun _ => errand.change?))) := by
        refine inv.goOn (locked_reloaded d w.registry) (by rw [loaded]; rfl)
          (.of_wrote (fun _ => rfl) rfl ?_)
        rw [loaded]
        cases errand <;> rfl
      exact ⟨hmoved.held, hmoved.alone, hmoved.nodup, hmoved.past, hmoved.latest, hmoved.wrote⟩
  | @leave c errand wrote result leaving =>
      refine inv.leave (by rw [leaving]; rfl) rfl (.of_wrote (fun _ => rfl) rfl ?_)
      rw [leaving]
      cases errand <;> rfl
  | @reenter c errand wrote result ended free =>
      refine inv.reenter free rfl (.of_wrote (fun _ => rfl) rfl ?_)
      rw [ended]
      cases errand <;> rfl
  | elsewhere unchanged => exact ⟨inv.held, inv.alone, inv.nodup, inv.past, inv.latest, inv.wrote⟩

theorem reaches (inv : Exclusive w) (run : Reaches store w w') : Exclusive w' := by
  induction run with
  | refl => exact inv
  | tail _ step ih => exact ih.step step

end Exclusive

/-! ## What a step does -/

/-- A step that leaves the document and the snapshot alone. -/
structure Idle (store : ProfileStore) (w w' : Editors ι) : Prop where
  unchanged : store.Unchanged w.registry.disk w'.registry.disk
  snapshot : w'.registry.snapshot = w.registry.snapshot
  reloads : w'.reloads = w.reloads
  written : w'.written = w.written
  stale : ∀ c, (w'.stage c).isStale = (w.stage c).isStale
  opened : ∀ {c : ι} {e : Edit} {r : Root}, w'.stage c = .opened e r →
    w.stage c = .opened e r ∨ (resultOf store.loadRoot w.registry.disk).1 = .ok r
  loaded : ∀ {c : ι} {errand : Errand} {wrote : Option Data.Fields}
    {d : Except Failure ProfilesDocument},
    w'.stage c = .loaded errand wrote d →
      w.stage c = .loaded errand wrote d ∨ d = (resultOf store.load w.registry.disk).1
  wrote : ∀ c, (w'.stage c).wrote? = (w.stage c).wrote?
  result : ∀ {c : ι}, (w.stage c).result?.isSome ∨ (w.stage c).wrote?.isSome →
    (w'.stage c).result? = (w.stage c).result?

/-- What a step does: it writes the document, publishes a snapshot, or neither. -/
inductive Effect (store : ProfileStore) (w : Editors ι) : Editors ι → Prop
  | idle {w' : Editors ι} (idle : Idle store w w') : Effect store w w'
  | write {w' : Editors ι} {c : ι} {e : Edit} {r : Root} {entries : Data.Fields}
      (opened : w.stage c = .opened e r) (edited : e.entries? r = some entries)
      (document : w'.document store = some (Edit.printed entries))
      (tree : w.registry.disk.IsTree → w'.registry.disk.IsTree)
      (snapshot : w'.registry.snapshot = w.registry.snapshot)
      (stage : w'.stage = Function.update w.stage c (.reloading (.edit e) (some entries)))
      (written : w'.written = w.written ++ [(c, e, entries)]) : Effect store w w'
  | publish {c : ι} {errand : Errand} {wrote : Option Data.Fields}
      {d : Except Failure ProfilesDocument} (loaded : w.stage c = .loaded errand wrote d)
      (written : (w.publish c errand wrote d).written = w.written) :
      Effect store w (w.publish c errand wrote d)

/-- A call comes to another stage, and nothing happens to the document and to the snapshot. -/
theorem Idle.of_setStage {w₁ : Editors ι} {c : ι} {x : Stage} (stages : w₁.stage = w.stage)
    (unchanged : store.Unchanged w.registry.disk w₁.registry.disk)
    (snapshot : w₁.registry.snapshot = w.registry.snapshot) (reloads : w₁.reloads = w.reloads)
    (written : (w₁.setStage c x).written = w.written) (wrote : x.wrote? = (w.stage c).wrote?)
    (stale : x.isStale = (w.stage c).isStale)
    (opened : ∀ {e r}, x = .opened e r → (resultOf store.loadRoot w.registry.disk).1 = .ok r)
    (loaded : ∀ {errand wrote d}, x = .loaded errand wrote d →
      d = (resultOf store.load w.registry.disk).1)
    (result : (w.stage c).result?.isSome ∨ (w.stage c).wrote?.isSome →
      x.result? = (w.stage c).result?) :
    Idle store w (w₁.setStage c x) where
  unchanged := unchanged
  snapshot := snapshot
  reloads := reloads
  written := written
  stale c' := by
    rcases eq_or_ne c' c with rfl | hne
    · rw [setStage_stage_self, stale]
    · rw [setStage_stage_of_ne hne, stages]
  opened {c'} e r h := by
    rcases eq_or_ne c' c with rfl | hne
    · rw [setStage_stage_self] at h
      exact .inr (opened h)
    · rw [setStage_stage_of_ne hne, stages] at h
      exact .inl h
  loaded {c'} errand wrote d h := by
    rcases eq_or_ne c' c with rfl | hne
    · rw [setStage_stage_self] at h
      exact .inr (loaded h)
    · rw [setStage_stage_of_ne hne, stages] at h
      exact .inl h
  wrote c' := by
    rcases eq_or_ne c' c with rfl | hne
    · rw [setStage_stage_self, wrote]
    · rw [setStage_stage_of_ne hne, stages]
  result {c'} h := by
    rcases eq_or_ne c' c with rfl | hne
    · rw [setStage_stage_self]
      exact result h
    · rw [setStage_stage_of_ne hne, stages]

/-- The call has written nothing. -/
def IsBlank (x : Stage) : Prop := x.wrote? = none ∧ x.isStale = false

/-- A call that has written nothing comes to another stage at which it has written nothing. -/
theorem Idle.of_isBlank {w₁ : Editors ι} {c : ι} {x y : Stage} (was : w.stage c = y)
    (hy : IsBlank y) (hresult : y.result? = none) (hx : IsBlank x) (stages : w₁.stage = w.stage)
    (unchanged : store.Unchanged w.registry.disk w₁.registry.disk)
    (snapshot : w₁.registry.snapshot = w.registry.snapshot) (reloads : w₁.reloads = w.reloads)
    (turns : w₁.turns = w.turns ∨ w₁.turns = w.turns ++ [c])
    (opened : ∀ {e r}, x = .opened e r → (resultOf store.loadRoot w.registry.disk).1 = .ok r)
    (loaded : ∀ {errand wrote d}, x = .loaded errand wrote d →
      d = (resultOf store.load w.registry.disk).1) : Idle store w (w₁.setStage c x) := by
  have hwrote : x.wrote? = (w.stage c).wrote? := by rw [was, hx.1, hy.1]
  refine .of_setStage stages unchanged snapshot reloads ?_ hwrote (by rw [was, hx.2, hy.2]) opened
    loaded fun h => ?_
  · have hstage : ∀ c', ((w₁.setStage c x).stage c').wrote? = (w.stage c').wrote? := by
      rw [← stages] at hwrote ⊢
      exact wrote?_setStage hwrote
    rcases turns with hturns | hturns
    · exact written_congr hturns hstage
    · unfold Editors.written
      rw [setStage_turns, hturns]
      simp only [hstage, List.filterMap_append]
      simp [was, hy.1]
  · rw [was, hresult, hy.1] at h
    simp at h

section Blank

variable {c : ι} {x y : Stage} (was : w.stage c = y) (hy : IsBlank y) (hresult : y.result? = none)
  (hx : IsBlank x)

include was hy hresult hx

/-- A call that has written nothing goes on, and the registry is what it was. -/
theorem Idle.goOn
    (opened : ∀ {e r}, x = .opened e r → (resultOf store.loadRoot w.registry.disk).1 = .ok r)
    (loaded : ∀ {errand wrote d}, x = .loaded errand wrote d →
      d = (resultOf store.load w.registry.disk).1) : Idle store w (w.setStage c x) :=
  .of_isBlank was hy hresult hx rfl ⟨rfl, id⟩ rfl rfl (.inl rfl) opened loaded

/-- A call gets the lock and has written nothing. -/
theorem Idle.enter (opened : ∀ {e r}, x ≠ .opened e r)
    (loaded : ∀ {errand wrote d}, x ≠ .loaded errand wrote d) : Idle store w (w.enter c x) :=
  .of_isBlank was hy hresult hx rfl ⟨rfl, id⟩ rfl rfl (.inr rfl) (fun h => absurd h opened)
    fun h => absurd h loaded

end Blank

/-- Each step writes the document, publishes a snapshot, or leaves both alone. -/
theorem Step.effect (inv : Exclusive w) (tree : w.registry.disk.IsTree) (step : Step store w w') :
    Effect store w w' := by
  have hsame : store.Unchanged w.registry.disk w.registry.disk := ⟨rfl, id⟩
  cases step with
  | ask unmade =>
      exact .idle (.goOn unmade ⟨rfl, rfl⟩ rfl ⟨rfl, rfl⟩ nofun nofun)
  | refuse unmade _ =>
      exact .idle (.goOn unmade ⟨rfl, rfl⟩ rfl ⟨rfl, rfl⟩ nofun nofun)
  | turnAway unmade _ =>
      exact .idle (.goOn unmade ⟨rfl, rfl⟩ rfl ⟨rfl, rfl⟩ nofun nofun)
  | enter waiting _ =>
      exact .idle (.enter waiting ⟨rfl, rfl⟩ rfl ⟨rfl, rfl⟩ nofun nofun)
  | enterReload unmade _ =>
      exact .idle (.enter unmade ⟨rfl, rfl⟩ rfl ⟨rfl, rfl⟩ nofun nofun)
  | read entered found =>
      refine .idle (.goOn entered ⟨rfl, rfl⟩ rfl ⟨rfl, rfl⟩ ?_ nofun)
      rintro _ _ ⟨⟩
      exact found
  | unread entered _ =>
      exact .idle (.goOn entered ⟨rfl, rfl⟩ rfl ⟨rfl, rfl⟩ nofun nofun)
  | absent opened _ =>
      exact .idle (.goOn opened ⟨rfl, rfl⟩ rfl ⟨rfl, rfl⟩ nofun nofun)
  | @write c e r entries disk opened edited written =>
      refine .write opened edited (document_writeRoot_of_ok written)
        (fun htree => isTree_writeRoot htree written) rfl rfl ?_
      refine written_setStage_of_last (w := w.setRegistry { w.registry with disk }) inv.nodup
        (inv.latest ?_) ?_ rfl
      · rw [opened]
        rfl
      · show (w.stage c).wrote? = none
        rw [opened]
        rfl
  | unwritten opened _ written =>
      have hunchanged := document_writeRoot_of_error tree written
      exact .idle (.of_isBlank opened ⟨rfl, rfl⟩ rfl ⟨rfl, rfl⟩ rfl
        ⟨hunchanged, fun htree => isTree_writeRoot htree written⟩ rfl rfl (.inl rfl) nofun nofun)
  | @load c errand wrote reloading =>
      have hwrote : ∀ d, (Stage.loaded errand wrote d).wrote? = (w.stage c).wrote? := by
        intro d
        rw [reloading]
        cases errand <;> rfl
      refine .idle (.of_setStage rfl hsame rfl rfl (written_setStage (hwrote _)) (hwrote _)
        (by rw [reloading]; rfl) nofun ?_ fun _ => by rw [reloading]; rfl)
      rintro _ _ _ ⟨⟩
      rfl
  | @publish c errand wrote d loaded =>
      refine .publish loaded (written_congr rfl (wrote?_setStage ?_))
      show _ = (w.stage c).wrote?
      rw [loaded]
      cases errand <;> rfl
  | @leave c errand wrote result leaving =>
      have hwrote : (Stage.ended errand wrote result).wrote? = (w.stage c).wrote? := by
        rw [leaving]
        cases errand <;> rfl
      exact .idle (.of_setStage rfl hsame rfl rfl (written_setStage (w := w.setRegistry _) hwrote)
        hwrote (by rw [leaving]; rfl) nofun nofun fun _ => by rw [leaving]; rfl)
  | @reenter c errand wrote result ended free =>
      have hwrote : (Stage.leaving errand wrote result).wrote? = (w.stage c).wrote? := by
        rw [ended]
        cases errand <;> rfl
      exact .idle (.of_setStage rfl hsame rfl rfl (written_setStage (w := w.setRegistry _) hwrote)
        hwrote (by rw [ended]; rfl) nofun nofun fun _ => by rw [ended]; rfl)
  | elsewhere unchanged =>
      exact .idle ⟨unchanged, rfl, rfl, rfl, fun _ => rfl, .inl, .inl, fun _ => rfl, fun _ => rfl⟩

/-! ## The document and what is served -/

/-- The document after an edit that was written. -/
def applied (store : ProfileStore) (content : Option Bytes) (e : Edit) : Option Bytes :=
  match store.rootOf? content with
  | .error _ => content
  | .ok r => ((e.entries? r).map Edit.printed).or content

/-- The document after all that was written, first write first. -/
def appliedAll (store : ProfileStore) (content : Option Bytes)
    (written : List (ι × Edit × Data.Fields)) : Option Bytes :=
  written.foldl (fun content e => applied store content e.2.1) content

omit [DecidableEq ι] in
theorem appliedAll_concat (store : ProfileStore) (content : Option Bytes)
    (es : List (ι × Edit × Data.Fields)) (e : ι × Edit × Data.Fields) :
    appliedAll store content (es ++ [e]) = applied store (appliedAll store content es) e.2.1 :=
  List.foldl_append ..

/-- A document has a root, and its records and their patterns can be loaded. -/
def CanLoad (store : ProfileStore) (content : Option Bytes) : Prop :=
  ∃ r, store.rootOf? content = .ok r ∧ r.contents.Bearable

/-- What is served is the document of the moment: its profiles with what they inherit, for each of
them the matchers of its rules, and its global assertions. -/
def Mirrors (store : ProfileStore) (w : Editors ι) : Prop :=
  ∃ r, store.rootOf? (w.document store) = .ok r ∧ w.registry.snapshot.Serves r.contents ∧
    w.registry.snapshot.globals = r.globals

/-- What was read and written is still there, and what is served is not older than the document unless
somebody has written it and not yet published. -/
structure Faithful (store : ProfileStore) (initial : Option Bytes) (w : Editors ι) : Prop where
  exclusive : Exclusive w
  tree : w.registry.disk.IsTree
  opened : ∀ {c : ι} {e : Edit} {r : Root}, w.stage c = .opened e r →
    store.rootOf? (w.document store) = .ok r
  loaded : ∀ {c : ι} {errand : Errand} {wrote : Option Data.Fields}
    {d : Except Failure ProfilesDocument},
    w.stage c = .loaded errand wrote d → d = store.rootOf? (w.document store) >>= readRoot
  document : w.document store = appliedAll store initial w.written
  mirrors : (∀ es, es <+: w.written → CanLoad store (appliedAll store initial es)) →
    0 < w.reloads → (∀ c, (w.stage c).isStale = false) → Mirrors store w

omit [DecidableEq ι] in
theorem Faithful.start (store : ProfileStore) {disk : Disk} (snapshot : Snapshot)
    (tree : disk.IsTree) :
    Faithful store (store.document disk) (.start disk snapshot : Editors ι) where
  exclusive := .start disk snapshot
  tree := tree
  opened := nofun
  loaded := nofun
  document := rfl
  mirrors := fun _ h => absurd h (Nat.lt_irrefl 0)

/-- A snapshot of a document that can be loaded is published. -/
theorem exists_reloaded_serves {r : Root} (h : r.contents.Bearable) (st : RegistryState) :
    ∃ result snapshot, reloaded (readRoot r) st = (.ok result, { st with snapshot }) ∧
      snapshot.Serves r.contents ∧ snapshot.globals = r.globals := by
  obtain ⟨snapshot, faults, hdocument, hglobals, hserves, -⟩ :=
    Snapshot.ofDocument_eq_ok r.globals h.patterns
  refine ⟨.ofCount component snapshot.profiles.length 0 faults, snapshot, ?_, hserves, hglobals⟩
  rw [readRoot_eq_ok h.records]
  unfold reloaded
  dsimp only
  rw [hdocument]

variable {initial : Option Bytes}

theorem Faithful.step (fits : store.HasFittingPath) (inv : Faithful store initial w)
    (step : Step store w w') : Faithful store initial w' := by
  have hexclusive := inv.exclusive.step step
  cases step.effect inv.exclusive inv.tree with
  | idle idle =>
      have hdocument : w'.document store = w.document store := idle.unchanged.document
      refine ⟨hexclusive, idle.unchanged.tree inv.tree, fun h => ?_, fun h => ?_, ?_, ?_⟩
      · rw [hdocument]
        rcases idle.opened h with hopened | hread
        · exact inv.opened hopened
        · rwa [loadRoot_eq fits] at hread
      · rw [hdocument]
        rcases idle.loaded h with hloaded | rfl
        · exact inv.loaded hloaded
        · rw [load_eq, loadRoot_eq fits]
          rfl
      · rw [hdocument, idle.written]
        exact inv.document
      · intro hall hreloads hstale
        rw [idle.written] at hall
        rw [idle.reloads] at hreloads
        obtain ⟨r, hroot, hserves, hglobals⟩ :=
          inv.mirrors hall hreloads fun c => (idle.stale c).symm.trans (hstale c)
        refine ⟨r, hdocument ▸ hroot, ?_, ?_⟩
        · rwa [idle.snapshot]
        · rwa [idle.snapshot]
  | @write _ c e r entries opened edited document tree snapshot stage written =>
      -- nobody else has read or loaded the document that is replaced
      have halone : ∀ c', (w'.stage c').isInside = true → c' = c := by
        intro c' hc'
        refine hexclusive.alone ?_ hc'
        rw [stage, Function.update_self]
        rfl
      have hstage : w'.stage c = .reloading (.edit e) (some entries) := by
        rw [stage, Function.update_self]
      refine ⟨hexclusive, tree inv.tree, fun {c'} _ _ h => ?_, fun {c'} _ _ _ h => ?_, ?_, ?_⟩
      · obtain rfl := halone c' (by rw [h]; rfl)
        rw [hstage] at h
        cases h
      · obtain rfl := halone c' (by rw [h]; rfl)
        rw [hstage] at h
        cases h
      · -- the edit was made from the root of the document that it replaces
        rw [document, written, appliedAll_concat, ← inv.document, applied, inv.opened opened]
        dsimp only
        rw [edited]
        rfl
      · intro _ _ hstale
        have hself := hstale c
        rw [hstage] at hself
        cases hself
  | @publish c errand wrote d loaded written =>
      have hdisk : (w.publish c errand wrote d).registry.disk = w.registry.disk :=
        disk_reloaded d w.registry
      have hdocument : (w.publish c errand wrote d).document store = w.document store :=
        congrArg store.document hdisk
      have hd := inv.loaded loaded
      refine ⟨hexclusive, hdisk ▸ inv.tree, fun {c'} _ _ h => ?_, fun {c'} _ _ _ h => ?_, ?_, ?_⟩
      · rw [hdocument]
        rcases eq_or_ne c' c with rfl | hne
        · rw [stage_publish_self] at h
          cases h
        · rw [stage_publish_of_ne _ hne] at h
          exact inv.opened h
      · rw [hdocument]
        rcases eq_or_ne c' c with rfl | hne
        · rw [stage_publish_self] at h
          cases h
        · rw [stage_publish_of_ne _ hne] at h
          exact inv.loaded h
      · rw [hdocument, written]
        exact inv.document
      · intro hall _ _
        rw [written] at hall
        obtain ⟨r, hroot, hbearable⟩ := hall w.written (List.prefix_refl _)
        rw [← inv.document] at hroot
        obtain ⟨result, snapshot, hreloaded, hserves, hglobals⟩ :=
          exists_reloaded_serves hbearable w.registry
        have hsnapshot : (w.publish c errand wrote d).registry.snapshot = snapshot := by
          show (reloaded d w.registry).2.snapshot = snapshot
          rw [hd, hroot]
          exact congrArg (·.2.snapshot) hreloaded
        refine ⟨r, hdocument ▸ hroot, ?_, ?_⟩
        · rwa [hsnapshot]
        · rwa [hsnapshot]

theorem Faithful.reaches (fits : store.HasFittingPath) (inv : Faithful store initial w)
    (run : Reaches store w w') : Faithful store initial w' := by
  induction run with
  | refl => exact inv
  | tail _ step ih => exact ih.step fits step

/-- Whatever calls edit the document and reload it, in whatever order they take their steps: the
document is what the edits that were written make of the first one, in the order in which their calls
got the lock, each call once. If the documents can be loaded and one reload has come to its end, then
whenever the lock is free the document of the moment is served. -/
theorem no_edit_lost {disk : Disk} {snapshot : Snapshot} (fits : store.HasFittingPath)
    (tree : disk.IsTree) (run : Reaches store (.start disk snapshot : Editors ι) w) :
    w.document store = appliedAll store (store.document disk) w.written ∧
      w.turns.Nodup ∧ (∀ c e, (w.stage c).wrote? = some e → c ∈ w.turns) ∧
      ((∀ es, es <+: w.written → CanLoad store (appliedAll store (store.document disk) es)) →
        0 < w.reloads → w.registry.locked = false → Mirrors store w) := by
  have inv := (Faithful.start store snapshot tree).reaches fits run
  refine ⟨inv.document, inv.exclusive.nodup, fun c e h => inv.exclusive.wrote h, ?_⟩
  intro hall hreloads hfree
  refine inv.mirrors hall hreloads fun c => ?_
  have hinside := inv.exclusive.eq_false_of_free hfree c
  cases hstage : w.stage c <;> rw [hstage] at hinside <;> first | rfl | cases hinside

theorem hasFittingPath_kept : kept.HasFittingPath := by
  intro place hplace
  cases hplace
  decide

/-- A call waits to save a profile, another one reloads everything, and a third one is turned away. -/
def threeCalls : Editors Nat :=
  (((start (unread Edit.oneProfile).disk {}).setStage 0 (.waiting (.save Edit.late))).enter 1
    (.reloading .reload none)).setStage 2 (.ended .reload none (.ok none))

theorem reaches_threeCalls (hproper : ¬ (Edit.save Edit.late).IsRefused) :
    Reaches kept (.start (unread Edit.oneProfile).disk {}) threeCalls := by
  have hasked : Reaches kept (.start (unread Edit.oneProfile).disk {} : Editors Nat) _ :=
    .single (.ask (c := 0) rfl hproper)
  have hbegun := hasked.tail (.enterReload (c := 1) rfl rfl)
  exact hbegun.tail (.turnAway (c := 2) rfl rfl)

theorem canLoad_of_any {store : ProfileStore} {content : Option Bytes}
    (h : (store.rootOf? content).toOption.any fun r => r.contents.Bearable) :
    CanLoad store content := by
  obtain ⟨r, hroot, hbearable⟩ := exists_eq_ok_of_any h
  exact ⟨r, hroot, of_decide_eq_true hbearable⟩

theorem canLoad_late : CanLoad kept (applied kept (some Edit.oneProfile) (.save Edit.late)) :=
  canLoad_of_any (by decide +kernel)

/-- The profile is saved behind the reload, and served. -/
theorem no_edit_lost_of_late : kept.HasFittingPath ∧ (unread Edit.oneProfile).disk.IsTree ∧
    ∃ w : Editors Nat, Reaches kept (.start (unread Edit.oneProfile).disk {}) w ∧
      (∃ entries, w.written = [(0, .save Edit.late, entries)]) ∧ 0 < w.reloads ∧
      w.registry.locked = false ∧
      w.document kept = appliedAll kept (some Edit.oneProfile) w.written ∧ Mirrors kept w := by
  have hproper : ¬ (Edit.save Edit.late).IsRefused := by
    show ¬ Text.isBlankText "late" = true
    decide
  obtain ⟨w₁, hreload, hregistry₁, hturns₁, hreloads₁, hstage₁⟩ :
      ∃ w₁, Reaches kept threeCalls w₁ ∧ _ ∧ _ ∧ _ ∧ _ := reaches_of_reloading (c := 1) rfl
  obtain ⟨w, wrote, hsave, hregistry, ⟨hstage, hturns, hreloads⟩, hwrote⟩ :
      ∃ w wrote, Reaches kept w₁ w ∧ _ ∧ HasEnded w₁ w 0 (.ended _ wrote _) ∧ _ :=
    reaches_of_waiting (by rw [hstage₁]; rfl) (by rw [hregistry₁]; rfl) hproper
  have hrun := ((reaches_threeCalls hproper).trans hreload).trans hsave
  -- the edit has come to its end, so it has written
  obtain ⟨change, hchange⟩ : ∃ change,
      (resultOf ((Edit.save Edit.late).run kept) w₁.registry).1 = .ok (some change) := by
    rw [hregistry₁]
    obtain ⟨change, hended, hsome⟩ := exists_eq_ok_of_any (by decide +kernel :
      (resultOf ((Edit.save Edit.late).run kept)
        (Edit.freed (resultOf (reload kept) threeCalls.registry).2)).1.toOption.any Option.isSome)
    obtain ⟨change, rfl⟩ := Option.isSome_iff_exists.mp hsome
    exact ⟨change, hended⟩
  obtain ⟨_, entries, -, -, rfl⟩ := hwrote change hchange
  have hwritten : w.written = [(0, .save Edit.late, entries)] := by
    unfold written
    rw [hturns, hturns₁, hstage, hstage₁]
    rfl
  have hfree : w.registry.locked = false := by
    rw [hregistry]
    exact (Edit.ends_run _ _ _).locked_eq_false (by rw [hregistry₁]; rfl)
  obtain ⟨hdocument, -, -, hmirrors⟩ := no_edit_lost hasFittingPath_kept (isTree_unread _) hrun
  have hall : ∀ es, es <+: w.written →
      CanLoad kept (appliedAll kept (some Edit.oneProfile) es) := by
    intro es hes
    rw [hwritten, List.prefix_cons_iff] at hes
    obtain rfl | ⟨rest, rfl, hrest⟩ := hes
    · exact canLoad_of_any (by decide +kernel)
    · obtain rfl := List.prefix_nil.mp hrest
      rw [appliedAll, List.foldl_cons, List.foldl_nil]
      exact canLoad_late
  refine ⟨hasFittingPath_kept, isTree_unread _, w, hrun, ⟨entries, hwritten⟩, ?_, hfree, hdocument,
    ?_⟩
  · omega
  · exact hmirrors hall (by omega) hfree

end Conformity.Registry.Editors
