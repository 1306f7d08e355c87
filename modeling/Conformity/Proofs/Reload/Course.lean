import Conformity.Proofs.Reload.Callers

/-!
# What a call goes through

A call that is accepted reloads the subsystems in their order, each of them once, whatever becomes of
any of them. What has happened to the call so far tells how far it has come (`Reception.Course`), and
this depends on no other call (`Reception.Course.run`). Only an interruption makes it break off.
-/

namespace Conformity

/-- What a subsystem's reload says of it: its own result, or that it failed. -/
inductive Subsystem.Tells {σ : Type} (s : Subsystem σ) : Reloaded → ReloadResult → Prop
  | own (r : ReloadResult) : Tells s (.result r) r
  | failed {reason : String} {r : ReloadResult} : r.component = s.name → r.status = .failed →
      r.errors = [s.name ++ " reload failed: " ++ reason] → Tells s (.broken reason) r

theorem Subsystem.tells_of_conclude {σ : Type} {s : Subsystem σ} {elapsed : Int} {o : Reloaded}
    {r : ReloadResult} (h : s.conclude elapsed o = .ok r) : s.Tells o r := by
  cases o with
  | result r' =>
      cases h
      exact .own r
  | broken reason =>
      cases h
      exact .failed rfl rfl rfl
  | interrupted reason => cases h

/-- Only an interruption keeps a subsystem from contributing a result. -/
theorem Subsystem.interrupted_of_conclude {σ : Type} {s : Subsystem σ} {elapsed : Int} {o : Reloaded}
    {reason : String} (h : s.conclude elapsed o = .error reason) : o = .interrupted reason := by
  cases o <;> cases h
  rfl

/-- The reload of one subsystem, from its beginning to its end. -/
structure Report (σ : Type) where
  subsystem : Subsystem σ
  outcome : Reloaded
  /-- How long it took, in milliseconds. -/
  elapsed : Int
  result : ReloadResult
  tells : subsystem.Tells outcome result

/-- What happens when a call reloads a subsystem. -/
def Report.events {ι σ : Type} (c : ι) (report : Report σ) : List (ReloadEvent ι σ) :=
  [.start c report.subsystem, .finish c report.subsystem report.outcome report.elapsed]

namespace Reception

variable {ι σ : Type} {subsystems : List (Subsystem σ)} {c : ι}

/-! ## What a call goes through -/

/-- What has happened to a call that has come so far. -/
inductive Course (subsystems : List (Subsystem σ)) (c : ι) :
    List (ReloadEvent ι σ) → ReloadCall σ → Prop
  | unmade : Course subsystems c [] .unmade
  | turnedAway : Course subsystems c [.turnAway c] (.ended (.ok [ReloadDesk.turnedAway]))
  | between (reports : List (Report σ)) {left : List (Subsystem σ)}
      (all : reports.map Report.subsystem ++ left = subsystems) :
      Course subsystems c (.accept c :: reports.flatMap (Report.events c))
        (.between (reports.map Report.result) left)
  | within (reports : List (Report σ)) {s : Subsystem σ} {left : List (Subsystem σ)}
      (all : reports.map Report.subsystem ++ s :: left = subsystems) :
      Course subsystems c (.accept c :: reports.flatMap (Report.events c) ++ [.start c s])
        (.within (reports.map Report.result) s left)
  | leaving (reports : List (Report σ)) (elapsed : Int)
      (all : reports.map Report.subsystem = subsystems) :
      Course subsystems c (.accept c :: reports.flatMap (Report.events c) ++ [.account c elapsed])
        (.leaving (.ok (reports.map Report.result)))
  | breakingOff (reports : List (Report σ)) {s : Subsystem σ} {left : List (Subsystem σ)}
      {reason : String} (elapsed : Int) (all : reports.map Report.subsystem ++ s :: left = subsystems) :
      Course subsystems c
        (.accept c :: reports.flatMap (Report.events c) ++
          [.start c s, .finish c s (.interrupted reason) elapsed])
        (.leaving (.error reason))
  | ended {es : List (ReloadEvent ι σ)} {result : Except String (List ReloadResult)} :
      Course subsystems c es (.leaving result) →
        Course subsystems c (es ++ [.release c]) (.ended result)

variable {es past : List (ReloadEvent ι σ)} {x : ReloadCall σ}

/-- Two events for each subsystem, except those that are left. -/
theorem length_events {reports : List (Report σ)} {left : List (Subsystem σ)}
    (all : reports.map Report.subsystem ++ left = subsystems) :
    (reports.flatMap (Report.events c)).length + 2 * left.length = 2 * subsystems.length := by
  have hevents : ∀ report : Report σ, (report.events c).length = 2 := fun _ => rfl
  rw [← all, List.length_append, List.length_map, List.length_flatMap]
  simp only [hevents, List.map_const', List.sum_replicate_nat]
  omega

/-- A call takes few steps, and before its last one still fewer. -/
theorem Course.length_le (h : Course subsystems c es x) :
    es.length ≤ 2 * subsystems.length + 3 ∧
      (x.isRunning = true → es.length ≤ 2 * subsystems.length + 2) := by
  induction h with
  | unmade => exact ⟨by simp, nofun⟩
  | turnedAway => exact ⟨by simp, nofun⟩
  | between _ all =>
      have hevents := length_events (c := c) all
      simp only [List.length_cons] at hevents ⊢
      omega
  | within _ all =>
      have hevents := length_events (c := c) all
      simp only [List.length_append, List.length_cons, List.length_nil] at hevents ⊢
      omega
  | leaving _ _ all =>
      have hevents := length_events (c := c) ((List.append_nil _).trans all)
      simp only [List.length_append, List.length_cons, List.length_nil] at hevents ⊢
      omega
  | breakingOff _ _ all =>
      have hevents := length_events (c := c) all
      simp only [List.length_append, List.length_cons, List.length_nil] at hevents ⊢
      omega
  | ended _ ih =>
      have hbefore := ih.2 rfl
      exact ⟨by rw [List.length_append]; exact Nat.add_le_add_right hbefore 1, nofun⟩

/-- A call that has been turned away has been through nothing else. -/
theorem Course.of_turnAway (h : Course subsystems c es x) (mem : .turnAway c ∈ es) :
    es = [.turnAway c] ∧ x = .ended (.ok [ReloadDesk.turnedAway]) := by
  induction h with
  | unmade => cases mem
  | turnedAway => exact ⟨rfl, rfl⟩
  | between => simp [Report.events] at mem
  | within => simp [Report.events] at mem
  | leaving => simp [Report.events] at mem
  | breakingOff => simp [Report.events] at mem
  | ended _ ih =>
      have hbefore := ih (by simpa using mem)
      cases hbefore.2

theorem Course.of_unmade (h : Course subsystems c past .unmade) : past = [] := by
  cases h
  rfl

variable [DecidableEq ι] {w w' : Reception ι σ} {e : ReloadEvent ι σ}

/-- Each step of a call leads on in its course. -/
theorem Course.step (step : Step subsystems e w w') (hc : e.caller = c)
    (h : Course subsystems c past (w.call c)) : Course subsystems c (past ++ [e]) (w'.call c) := by
  cases step with
  | @turnAway _ d unmade _ =>
      obtain rfl : d = c := hc
      rw [unmade] at h
      obtain rfl := h.of_unmade
      rw [goOn_call_self]
      exact .turnedAway
  | @accept _ d unmade _ =>
      obtain rfl : d = c := hc
      rw [unmade] at h
      obtain rfl := h.of_unmade
      rw [goOn_call_self]
      exact .between [] rfl
  | @start _ d _ s left between =>
      obtain rfl : d = c := hc
      rw [between] at h
      rw [goOn_call_self]
      cases h with
      | between reports all => exact .within reports all
  | @finish _ d _ s left o elapsed r within counts =>
      obtain rfl : d = c := hc
      rw [within] at h
      rw [goOn_call_self]
      cases h with
      | within reports all =>
          have hnext := Course.between (c := d)
            (reports ++ [⟨s, o, elapsed, r, Subsystem.tells_of_conclude counts⟩])
            (by simpa using all)
          simpa [Report.events] using hnext
  | @breakOff _ d _ s left o elapsed reason within counts =>
      obtain rfl : d = c := hc
      obtain rfl := Subsystem.interrupted_of_conclude counts
      rw [within] at h
      rw [goOn_call_self]
      cases h with
      | within reports all => simpa using Course.breakingOff (c := d) reports elapsed all
  | @account _ d _ elapsed between =>
      obtain rfl : d = c := hc
      rw [between] at h
      rw [goOn_call_self]
      cases h with
      | between reports all => exact .leaving reports elapsed (by simpa using all)
  | @release _ d result leaving =>
      obtain rfl : d = c := hc
      rw [leaving] at h
      rw [goOn_call_self]
      exact .ended h

/-- The events of a call. -/
def eventsOf (c : ι) (es : List (ReloadEvent ι σ)) : List (ReloadEvent ι σ) :=
  es.filter (·.caller = c)

/-- A call has been through its own events, whatever happens to others. -/
theorem Course.run (run : Run subsystems es w w') (h : Course subsystems c past (w.call c)) :
    Course subsystems c (past ++ eventsOf c es) (w'.call c) := by
  induction run generalizing past with
  | nil => rwa [eventsOf, List.filter_nil, List.append_nil]
  | @cons e es w w₁ w' step _ ih =>
      by_cases hc : e.caller = c
      · have hnext := ih (h.step step hc)
        rwa [List.append_assoc, List.singleton_append,
          show e :: eventsOf c es = eventsOf c (e :: es) by simp [eventsOf, hc]] at hnext
      · have hsame : w₁.call c = w.call c := step.call_of_ne (Ne.symm hc)
        have hnext := ih (hsame.symm ▸ h)
        rwa [show eventsOf c es = eventsOf c (e :: es) by simp [eventsOf, hc]] at hnext

end Reception

end Conformity
