import Conformity.Proofs.Reload.Course

/-!
# One reload at a time

The desk is locked exactly while a call runs, and only one call runs at a time (`Reception.Guarded`).
So an accepted call answers with one result for each subsystem, and the desk keeps these results until
another call accounts for its own; a call that is turned away changes nothing
(`Reception.reloads_take_turns`).
-/

namespace Conformity.Reception

variable {ι σ : Type} [DecidableEq ι] {subsystems : List (Subsystem σ)} {c : ι}
  {e : ReloadEvent ι σ} {es : List (ReloadEvent ι σ)} {w w' : Reception ι σ}

/-! ## Who has locked the desk -/

/-- The desk is locked exactly while a call runs, no two calls run, and a call that has accounted for its
results finds them at the desk until it unlocks it. -/
structure Guarded (w : Reception ι σ) : Prop where
  held : ∀ {c : ι}, (w.call c).isRunning = true → w.desk.locked = true
  owned : w.desk.locked = true → ∃ c, (w.call c).isRunning = true
  alone : ∀ {c c' : ι}, (w.call c).isRunning = true → (w.call c').isRunning = true → c' = c
  recorded : ∀ {c : ι} {results : List ReloadResult}, w.call c = .leaving (.ok results) →
    w.desk.last = some results

namespace Guarded

omit [DecidableEq ι] in
theorem opening {desk : ReloadDesk} (free : desk.locked = false) :
    Guarded (.opening desk : Reception ι σ) where
  held := nofun
  owned := fun h => by
    rw [show (Reception.opening desk : Reception ι σ).desk = desk from rfl, free] at h
    cases h
  alone := nofun
  recorded := nofun

variable {x : ReloadCall σ} {desk : ReloadDesk}

/-- The desk is locked by the only call that runs. -/
theorem of_only (only : ∀ c', ((w.goOn c x desk).call c').isRunning = true → c' = c)
    (hx : x.isRunning = true) (locked : desk.locked = true)
    (recorded : ∀ results, x = .leaving (.ok results) → desk.last = some results) :
    Guarded (w.goOn c x desk) where
  held := fun _ => locked
  owned := fun _ => ⟨c, by rwa [goOn_call_self]⟩
  alone := fun h h' => (only _ h').trans (only _ h).symm
  recorded := fun {c' results} h => by
    obtain rfl := only c' (by rw [h]; rfl)
    rw [goOn_call_self] at h
    exact recorded results h

/-- A call goes on while it has locked the desk. -/
theorem goOn (inv : Guarded w) (running : (w.call c).isRunning = true) (hx : x.isRunning = true)
    (locked : desk.locked = w.desk.locked)
    (recorded : ∀ results, x = .leaving (.ok results) → desk.last = some results) :
    Guarded (w.goOn c x desk) := by
  refine of_only ?_ hx (locked.trans (inv.held running)) recorded
  intro c' hc'
  by_contra hne
  rw [goOn_call_of_ne hne] at hc'
  exact hne (inv.alone running hc')

/-- A call locks the desk. -/
theorem accept (inv : Guarded w) (free : w.desk.locked = false) (hx : x.isRunning = true)
    (locked : desk.locked = true) (fresh : ∀ results, x ≠ .leaving results) :
    Guarded (w.goOn c x desk) := by
  refine of_only ?_ hx locked fun results h => absurd h (fresh _)
  intro c' hc'
  by_contra hne
  rw [goOn_call_of_ne hne] at hc'
  -- no other call ran, for the desk was free
  rw [inv.held hc'] at free
  cases free

/-- A call that has not locked the desk, and will not, changes nothing. -/
theorem stayOut (inv : Guarded w) (hc : (w.call c).isRunning = false) (hx : x.isRunning = false) :
    Guarded (w.goOn c x w.desk) := by
  have hcall : ∀ c', ((w.goOn c x w.desk).call c').isRunning = true →
      (w.goOn c x w.desk).call c' = w.call c' := by
    intro c' hc'
    rcases eq_or_ne c' c with rfl | hne
    · rw [goOn_call_self, hx] at hc'
      cases hc'
    · exact goOn_call_of_ne hne ..
  refine ⟨fun h => inv.held (hcall _ h ▸ h), fun h => ?_,
    fun h h' => inv.alone (hcall _ h ▸ h) (hcall _ h' ▸ h'), fun {c' results} h => ?_⟩
  · obtain ⟨c', hc'⟩ := inv.owned h
    have hne : c' ≠ c := by
      rintro rfl
      rw [hc] at hc'
      cases hc'
    exact ⟨c', by rwa [goOn_call_of_ne hne]⟩
  · have hsame := hcall c' (by rw [h]; rfl)
    exact inv.recorded (hsame ▸ h)

/-- A call unlocks the desk. -/
theorem release (inv : Guarded w) (running : (w.call c).isRunning = true)
    (hx : x.isRunning = false) (unlocked : desk.locked = false) : Guarded (w.goOn c x desk) := by
  have hnone : ∀ c', ((w.goOn c x desk).call c').isRunning = false := by
    intro c'
    rcases eq_or_ne c' c with rfl | hne
    · rw [goOn_call_self, hx]
    · rw [goOn_call_of_ne hne]
      by_contra h
      exact hne (inv.alone running (Bool.not_eq_false _ ▸ h))
  have hnever : ∀ (c' : ι) {P : Prop}, ((w.goOn c x desk).call c').isRunning = true → P := by
    intro c' P h
    rw [hnone c'] at h
    cases h
  refine ⟨hnever _, fun h => ?_, hnever _, fun {c' results} h => hnever c' (by rw [h]; rfl)⟩
  rw [goOn_desk, unlocked] at h
  cases h

/-- The lock keeps calls apart. -/
theorem step (inv : Guarded w) (step : Step subsystems e w w') : Guarded w' := by
  cases step with
  | turnAway unmade _ => exact inv.stayOut (by rw [unmade]; rfl) rfl
  | accept _ free => exact inv.accept free rfl rfl nofun
  | start between => exact inv.goOn (by rw [between]; rfl) rfl rfl nofun
  | finish within _ => exact inv.goOn (by rw [within]; rfl) rfl rfl nofun
  | breakOff within _ => exact inv.goOn (by rw [within]; rfl) rfl rfl nofun
  | account between =>
      refine inv.goOn (by rw [between]; rfl) rfl rfl fun results h => ?_
      cases h
      rfl
  | release leaving => exact inv.release (by rw [leaving]; rfl) rfl rfl

theorem run (inv : Guarded w) (run : Run subsystems es w w') : Guarded w' :=
  run.invariant (fun inv step => inv.step step) inv

end Guarded

/-! ## What becomes of a run -/

theorem Step.caller_ne_of_ended {result : Except String (List ReloadResult)}
    (step : Step subsystems e w w') (h : w.call c = .ended result) : c ≠ e.caller := by
  rintro rfl
  cases step with
  | turnAway unmade _ => cases h.symm.trans unmade
  | accept unmade _ => cases h.symm.trans unmade
  | start between => cases h.symm.trans between
  | finish within _ => cases h.symm.trans within
  | breakOff within _ => cases h.symm.trans within
  | account between => cases h.symm.trans between
  | release leaving => cases h.symm.trans leaving

/-- A call that has ended takes no more steps. -/
theorem Run.call_of_ended {result : Except String (List ReloadResult)}
    (run : Run subsystems es w w') (h : w.call c = .ended result) : w'.call c = .ended result :=
  run.invariant (P := fun w => w.call c = .ended result)
    (fun h step => (step.call_of_ne (step.caller_ne_of_ended h)).trans h) h

/-- The results stay at the desk until a call accounts for others. -/
theorem Run.last_eq (run : Run subsystems es w w') (none : ∀ c elapsed, .account c elapsed ∉ es) :
    w'.desk.last = w.desk.last := by
  induction run with
  | nil => rfl
  | cons step _ ih =>
      have hrest := ih fun c elapsed h => none c elapsed (List.mem_cons_of_mem _ h)
      cases step with
      | account => exact absurd List.mem_cons_self (none _ _)
      | turnAway => exact hrest
      | accept => exact hrest
      | start => exact hrest
      | finish => exact hrest
      | breakOff => exact hrest
      | release => exact hrest

/-- A call that has not ended can go on. -/
theorem exists_step (h : ∀ result, w.call c ≠ .ended result) :
    ∃ e w', e.caller = c ∧ Step subsystems e w w' := by
  cases hcall : w.call c with
  | unmade =>
      cases hlocked : w.desk.locked with
      | true => exact ⟨_, _, rfl, .turnAway hcall hlocked⟩
      | false => exact ⟨_, _, rfl, .accept hcall hlocked⟩
  | between done left =>
      cases left with
      | nil => exact ⟨.account c 0, _, rfl, .account hcall⟩
      | cons s left => exact ⟨_, _, rfl, .start hcall⟩
  | within done s left => exact ⟨.finish c s (.broken "") 0, _, rfl, .finish hcall rfl⟩
  | leaving result => exact ⟨_, _, rfl, .release hcall⟩
  | ended result => exact absurd hcall (h result)

/-- The reload of a subsystem may end in any way, after any time. -/
theorem exists_finish {done : List ReloadResult} {s : Subsystem σ} {left : List (Subsystem σ)}
    (h : w.call c = .within done s left) (outcome : Reloaded) (elapsed : Int) :
    ∃ w', Step subsystems (.finish c s outcome elapsed) w w' := by
  cases hcounts : s.conclude elapsed outcome with
  | ok r => exact ⟨_, .finish h hcounts⟩
  | error reason => exact ⟨_, .breakOff h hcounts⟩

/-- The calls of one desk take turns: when these events have happened, this holds of what has become of
the desk and of the calls. -/
structure TakesTurns (subsystems : List (Subsystem σ)) (desk : ReloadDesk)
    (es : List (ReloadEvent ι σ)) (w : Reception ι σ) : Prop where
  /-- The desk is locked exactly while a call runs. -/
  locked_iff : w.desk.locked = true ↔ ∃ c, (w.call c).isRunning = true
  /-- No two calls run, so that no two subsystems are reloaded, at the same time. -/
  alone : ∀ c c', (w.call c).isRunning = true → (w.call c').isRunning = true → c' = c
  /-- An accepted call that has ended without interruption has reloaded every subsystem once, in their
  order, and answers with the result of each, or with the failure of one that broke off. -/
  accepted : ∀ c result, .accept c ∈ es → w.call c = .ended result →
    (∀ s reason elapsed, .finish c s (.interrupted reason) elapsed ∉ es) →
    ∃ (reports : List (Report σ)) (elapsed : Int), reports.map Report.subsystem = subsystems ∧
      result = .ok (reports.map Report.result) ∧
      eventsOf c es =
        .accept c :: reports.flatMap (Report.events c) ++ [.account c elapsed] ++ [.release c]
  /-- A call is turned away while the desk is locked. It reloads nothing, changes nothing at the desk
  and answers that it has been skipped. -/
  turnedAway : ∀ c, .turnAway c ∈ es → eventsOf c es = [.turnAway c] ∧
    (∃ r : ReloadResult, r.status = .skipped ∧ w.call c = .ended (.ok [r])) ∧
    ∃ es₁ es₂ w₁ w₂, es = es₁ ++ .turnAway c :: es₂ ∧ Run subsystems es₁ (.opening desk) w₁ ∧
      w₁.desk.locked = true ∧ w₂.desk = w₁.desk ∧ Run subsystems es₂ w₂ w
  /-- From the end of a call until another one accounts for its results, the desk has those that the call
  answered with, and says whether all of them are good. -/
  recorded : ∀ es₁ es₂ c results, es = es₁ ++ .release c :: es₂ →
    (∀ c' elapsed, .account c' elapsed ∉ es₂) → w.call c = .ended (.ok results) →
    w.desk.last = some results ∧ (w.desk.lastSuccess = some true ↔ ∀ r ∈ results, r.status = .ok)
  /-- A call that has not ended goes on, however the reload of a subsystem ends. -/
  goesOn : ∀ c, (∀ result, w.call c ≠ .ended result) →
    (∃ e w', e.caller = c ∧ Step subsystems e w w') ∧
    ∀ done s left, w.call c = .within done s left →
      ∀ outcome elapsed, ∃ w', Step subsystems (.finish c s outcome elapsed) w w'
  /-- It does not go on for ever. -/
  bounded : ∀ c, (eventsOf c es).length ≤ 2 * subsystems.length + 3

variable {desk : ReloadDesk}

theorem course_of_run (run : Run subsystems es (.opening desk) w) (c : ι) :
    Course subsystems c (eventsOf c es) (w.call c) := by
  have hstart : Course subsystems c [] ((Reception.opening desk).call c) := .unmade
  exact hstart.run run

theorem mem_eventsOf {c : ι} : e ∈ eventsOf c es ↔ e ∈ es ∧ e.caller = c := by
  simp [eventsOf]

theorem accepted_of_run (run : Run subsystems es (.opening desk) w)
    {result : Except String (List ReloadResult)} (accepted : .accept c ∈ es)
    (ended : w.call c = .ended result)
    (uninterrupted : ∀ s reason elapsed, .finish c s (.interrupted reason) elapsed ∉ es) :
    ∃ (reports : List (Report σ)) (elapsed : Int), reports.map Report.subsystem = subsystems ∧
      result = .ok (reports.map Report.result) ∧
      eventsOf c es =
        .accept c :: reports.flatMap (Report.events c) ++ [.account c elapsed] ++ [.release c] := by
  have hcourse := course_of_run run c
  have hmem : .accept c ∈ eventsOf c es := mem_eventsOf.mpr ⟨accepted, rfl⟩
  rw [ended] at hcourse
  generalize heq : eventsOf c es = past at hcourse hmem
  cases hcourse with
  | turnedAway => simp at hmem
  | ended before =>
      cases before with
      | leaving reports elapsed all => exact ⟨reports, elapsed, all, rfl, rfl⟩
      | @breakingOff reports s left reason elapsed all =>
          have hfinish : .finish c s (.interrupted reason) elapsed ∈ eventsOf c es := by simp [heq]
          exact absurd (mem_eventsOf.mp hfinish).1 (uninterrupted s reason elapsed)

theorem turnedAway_of_run (run : Run subsystems es (.opening desk) w) (mem : .turnAway c ∈ es) :
    eventsOf c es = [.turnAway c] ∧
    (∃ r : ReloadResult, r.status = .skipped ∧ w.call c = .ended (.ok [r])) ∧
    ∃ es₁ es₂ w₁ w₂, es = es₁ ++ .turnAway c :: es₂ ∧ Run subsystems es₁ (.opening desk) w₁ ∧
      w₁.desk.locked = true ∧ w₂.desk = w₁.desk ∧ Run subsystems es₂ w₂ w := by
  obtain ⟨hevents, hcall⟩ := (course_of_run run c).of_turnAway (mem_eventsOf.mpr ⟨mem, rfl⟩)
  obtain ⟨es₁, es₂, rfl⟩ := List.append_of_mem mem
  obtain ⟨w₁, hbefore, hrest⟩ := run.split
  refine ⟨hevents, ⟨_, rfl, hcall⟩, es₁, es₂, w₁, ?_⟩
  cases hrest with
  | cons step hafter =>
      cases step with
      | turnAway _ held =>
          exact ⟨w₁.goOn c (.ended (.ok [ReloadDesk.turnedAway])) w₁.desk, rfl, hbefore, held, rfl,
            hafter⟩

theorem recorded_of_run {es₁ es₂ : List (ReloadEvent ι σ)} {results : List ReloadResult}
    (free : desk.locked = false)
    (run : Run subsystems (es₁ ++ .release c :: es₂) (.opening desk) w)
    (unaccounted : ∀ c' elapsed, .account c' elapsed ∉ es₂)
    (ended : w.call c = .ended (.ok results)) : w.desk.last = some results := by
  obtain ⟨w₁, hbefore, hrest⟩ := run.split
  cases hrest with
  | cons step hafter =>
      cases step with
      | @release _ _ result leaving =>
          have hended := hafter.call_of_ended (goOn_call_self w₁ c (.ended result) _)
          obtain rfl : result = .ok results := by
            rw [ended] at hended
            cases hended
            rfl
          rw [hafter.last_eq unaccounted]
          exact ((Guarded.opening free).run hbefore).recorded leaving

/-- Any number of callers, in any interleaving, with subsystems that end in any way: they take turns. A
call by itself is `reloadAll`. -/
theorem reloads_take_turns (free : desk.locked = false)
    (run : Run subsystems es (.opening desk) w) :
    TakesTurns subsystems desk es w ∧
    ∀ (slot : Slot σ ReloadDesk) (st : σ) (c : ι), (∀ d st, slot.get (slot.put d st) = d) →
      (∀ s ∈ subsystems, ∀ st, slot.get (s.reload st).2 = slot.get st) →
      w.call c = .unmade → w.desk = slot.get st →
      ∃ es' w', Run subsystems es' w w' ∧ (∀ e ∈ es', e.caller = c) ∧
        w'.desk = slot.get (reloadAll slot subsystems st).2 ∧
        w'.call c = .ended (reloadAll slot subsystems st).1 := by
  have hguarded : Guarded w := (Guarded.opening free).run run
  refine ⟨?_, fun slot st c lawful aside unmade hdesk => reloadAll_run lawful aside st unmade hdesk⟩
  exact {
    locked_iff := ⟨hguarded.owned, fun ⟨_, h⟩ => hguarded.held h⟩
    alone := fun _ _ => hguarded.alone
    accepted := fun _ _ => accepted_of_run run
    turnedAway := fun _ => turnedAway_of_run run
    recorded := fun es₁ es₂ c results heq unaccounted ended => by
      subst heq
      have hlast := recorded_of_run free run unaccounted ended
      refine ⟨hlast, ?_⟩
      simp [ReloadDesk.lastSuccess, hlast, ReloadResult.isOk]
    goesOn := fun _ h => ⟨exists_step h, fun _ _ _ hwithin => exists_finish hwithin⟩
    bounded := fun c => (course_of_run run c).length_le.1 }

/-! While the first of three callers reloads a part that breaks off, the second one is turned away. The
third one may still call. -/

def schematron : Subsystem ReloadDesk := ⟨"Schematron", return .broken "out of memory"⟩

def profiles : Subsystem ReloadDesk :=
  ⟨"Profiles", return .result { component := "Profiles", status := .ok, loaded := 3 }⟩

theorem reloads_take_turns_of_three :
    ∃ es, ∃ w : Reception (Fin 3) ReloadDesk,
      Run [schematron, profiles] es (.opening {}) w ∧
      TakesTurns [schematron, profiles] {} es w ∧
      w.call 1 = .ended (.ok [ReloadDesk.turnedAway]) ∧
      (∃ failure ok, w.call 0 = .ended (.ok [failure, ok]) ∧ w.desk.last = some [failure, ok] ∧
        failure.component = "Schematron" ∧ failure.status = .failed ∧ ok.status = .ok) ∧
      w.desk.locked = false ∧ w.desk.lastSuccess = some false ∧
      ∃ es' w', Run [schematron, profiles] es' w w' ∧ (∀ e ∈ es', e.caller = 2) ∧
        w'.desk = Slot.whole.get (reloadAll .whole [schematron, profiles] w.desk).2 ∧
        w'.call 2 = .ended (reloadAll .whole [schematron, profiles] w.desk).1 := by
  have run : Run [schematron, profiles]
      [.accept (0 : Fin 3), .start 0 schematron, .turnAway 1,
        .finish 0 schematron (.broken "out of memory") 7, .start 0 profiles,
        .finish 0 profiles (.result { component := "Profiles", status := .ok, loaded := 3 }) 2,
        .account 0 9, .release 0] (.opening {}) _ :=
    .cons (.accept rfl rfl) <| .cons (.start rfl) <| .cons (.turnAway rfl rfl) <|
      .cons (.finish rfl rfl) <| .cons (.start rfl) <| .cons (.finish rfl rfl) <|
      .cons (.account rfl) <| .cons (.release rfl) .nil
  obtain ⟨turns, byItself⟩ := reloads_take_turns rfl run
  have aside : ∀ s ∈ [schematron, profiles], ∀ st, Slot.whole.get (s.reload st).2 = st :=
    List.forall_mem_cons.mpr ⟨fun _ => rfl, List.forall_mem_cons.mpr ⟨fun _ => rfl, nofun⟩⟩
  have third := byItself .whole _ 2 (fun _ _ => rfl) aside rfl rfl
  exact ⟨_, _, run, turns, rfl, ⟨_, _, rfl, rfl, rfl, rfl, rfl⟩, rfl, rfl, third⟩

end Conformity.Reception
