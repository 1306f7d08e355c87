import Conformity.Proofs.Work
import Conformity.Reload.Orchestrator
import Mathlib.Logic.Function.Basic

/-!
# Callers of one desk

Any number of callers ask one desk for a reload of everything. A call that finds the desk locked is
turned away. Any other call locks the desk and reloads one subsystem after another, whatever becomes of
them, then accounts for the results, and unlocks the desk.

The steps of different calls come in any order, and the reload of a subsystem lies between two steps,
so that other calls can be made meanwhile. It may end in any way, after any time.

A call by itself is `reloadAll` (`Reception.reloadAll_run`).
-/

namespace Conformity

/-- How far a call has come. From `between` to `leaving` it has locked the desk. -/
inductive ReloadCall (σ : Type) where
  /-- It has not been made yet. -/
  | unmade
  /-- It has these results, and these subsystems are left. -/
  | between (done : List ReloadResult) (left : List (Subsystem σ))
  /-- It reloads a subsystem. -/
  | within (done : List ReloadResult) (s : Subsystem σ) (left : List (Subsystem σ))
  /-- Nothing is left to be done, but the desk is still locked. -/
  | leaving (result : Except String (List ReloadResult))
  | ended (result : Except String (List ReloadResult))

/-- Has the call locked the desk? -/
def ReloadCall.isRunning {σ : Type} : ReloadCall σ → Bool
  | between .. | within .. | leaving _ => true
  | unmade | ended _ => false

/-- One thing that happens at once. -/
inductive ReloadEvent (ι σ : Type) where
  /-- A call finds the desk locked. -/
  | turnAway (c : ι)
  /-- A call finds the desk free, and locks it. -/
  | accept (c : ι)
  /-- A call begins to reload a subsystem. -/
  | start (c : ι) (s : Subsystem σ)
  /-- The reload of a subsystem ends, some milliseconds after it began. -/
  | finish (c : ι) (s : Subsystem σ) (outcome : Reloaded) (elapsed : Int)
  /-- A call accounts for its results, some milliseconds after it was accepted. -/
  | account (c : ι) (elapsed : Int)
  /-- A call unlocks the desk. -/
  | release (c : ι)

/-- Whose event it is. -/
def ReloadEvent.caller {ι σ : Type} : ReloadEvent ι σ → ι
  | turnAway c | accept c | start c _ | finish c _ _ _ | account c _ | release c => c

/-- A desk among its callers. -/
structure Reception (ι σ : Type) where
  desk : ReloadDesk
  call : ι → ReloadCall σ

namespace Reception

variable {ι σ : Type}

/-- A desk that nobody has called. -/
def opening (desk : ReloadDesk) : Reception ι σ := ⟨desk, fun _ => .unmade⟩

variable [DecidableEq ι]

/-- A call has come to another stage, and the desk has changed. -/
def goOn (w : Reception ι σ) (c : ι) (x : ReloadCall σ) (desk : ReloadDesk) : Reception ι σ :=
  ⟨desk, Function.update w.call c x⟩

@[simp] theorem goOn_desk (w : Reception ι σ) (c : ι) (x : ReloadCall σ) (desk : ReloadDesk) :
    (w.goOn c x desk).desk = desk := rfl

@[simp] theorem goOn_call_self (w : Reception ι σ) (c : ι) (x : ReloadCall σ) (desk : ReloadDesk) :
    (w.goOn c x desk).call c = x :=
  Function.update_self ..

theorem goOn_call_of_ne {c c' : ι} (h : c' ≠ c) (w : Reception ι σ) (x : ReloadCall σ)
    (desk : ReloadDesk) : (w.goOn c x desk).call c' = w.call c' :=
  Function.update_of_ne h ..

/-- What one event does. -/
inductive Step (subsystems : List (Subsystem σ)) :
    ReloadEvent ι σ → Reception ι σ → Reception ι σ → Prop
  | turnAway {w : Reception ι σ} {c : ι} (unmade : w.call c = .unmade)
      (held : w.desk.locked = true) :
      Step subsystems (.turnAway c) w (w.goOn c (.ended (.ok [ReloadDesk.turnedAway])) w.desk)
  | accept {w : Reception ι σ} {c : ι} (unmade : w.call c = .unmade)
      (free : w.desk.locked = false) :
      Step subsystems (.accept c) w (w.goOn c (.between [] subsystems) w.desk.taken)
  | start {w : Reception ι σ} {c : ι} {done : List ReloadResult} {s : Subsystem σ}
      {left : List (Subsystem σ)} (between : w.call c = .between done (s :: left)) :
      Step subsystems (.start c s) w (w.goOn c (.within done s left) w.desk)
  | finish {w : Reception ι σ} {c : ι} {done : List ReloadResult} {s : Subsystem σ}
      {left : List (Subsystem σ)} {outcome : Reloaded} {elapsed : Int} {r : ReloadResult}
      (within : w.call c = .within done s left) (counts : s.conclude elapsed outcome = .ok r) :
      Step subsystems (.finish c s outcome elapsed) w
        (w.goOn c (.between (done ++ [r]) left) w.desk)
  /-- An interruption ends the work. -/
  | breakOff {w : Reception ι σ} {c : ι} {done : List ReloadResult} {s : Subsystem σ}
      {left : List (Subsystem σ)} {outcome : Reloaded} {elapsed : Int} {reason : String}
      (within : w.call c = .within done s left)
      (counts : s.conclude elapsed outcome = .error reason) :
      Step subsystems (.finish c s outcome elapsed) w (w.goOn c (.leaving (.error reason)) w.desk)
  | account {w : Reception ι σ} {c : ι} {done : List ReloadResult} {elapsed : Int}
      (between : w.call c = .between done []) :
      Step subsystems (.account c elapsed) w
        (w.goOn c (.leaving (.ok done)) (w.desk.accounted (.ok done) elapsed))
  | release {w : Reception ι σ} {c : ι} {result : Except String (List ReloadResult)}
      (leaving : w.call c = .leaving result) :
      Step subsystems (.release c) w (w.goOn c (.ended result) w.desk.released)

/-- Several events one after another. -/
inductive Run (subsystems : List (Subsystem σ)) :
    List (ReloadEvent ι σ) → Reception ι σ → Reception ι σ → Prop
  | nil {w : Reception ι σ} : Run subsystems [] w w
  | cons {e : ReloadEvent ι σ} {es : List (ReloadEvent ι σ)} {w w' w'' : Reception ι σ} :
      Step subsystems e w w' → Run subsystems es w' w'' → Run subsystems (e :: es) w w''

variable {subsystems : List (Subsystem σ)} {w w' w'' : Reception ι σ} {c : ι}
  {e : ReloadEvent ι σ} {es fs : List (ReloadEvent ι σ)}

/-- What every step keeps, every run keeps. -/
theorem Run.invariant {P : Reception ι σ → Prop}
    (hstep : ∀ {e : ReloadEvent ι σ} {w w' : Reception ι σ}, P w → Step subsystems e w w' → P w')
    (run : Run subsystems es w w') (hw : P w) : P w' := by
  induction run with
  | nil => exact hw
  | cons step _ ih => exact ih (hstep hw step)

theorem Run.append (run : Run subsystems es w w') (rest : Run subsystems fs w' w'') :
    Run subsystems (es ++ fs) w w'' := by
  induction run with
  | nil => exact rest
  | cons step _ ih => exact .cons step (ih rest)

theorem Run.split (run : Run subsystems (es ++ fs) w w'') :
    ∃ w', Run subsystems es w w' ∧ Run subsystems fs w' w'' := by
  induction es generalizing w with
  | nil => exact ⟨w, .nil, run⟩
  | cons e es ih =>
      cases run with
      | cons step run =>
          obtain ⟨w', hes, hfs⟩ := ih run
          exact ⟨w', .cons step hes, hfs⟩

/-- An event is of no other call. -/
theorem Step.call_of_ne (step : Step subsystems e w w') (h : c ≠ e.caller) :
    w'.call c = w.call c := by
  cases step <;> exact goOn_call_of_ne h ..

/-! ## A call by itself -/

theorem reloadEach_cons (done : List ReloadResult) (s : Subsystem σ) (left : List (Subsystem σ))
    (st : σ) : reloadEach done (s :: left) st =
      match s.conclude 0 (s.reload st).1 with
      | .ok r => reloadEach (r :: done) left (s.reload st).2
      | .error reason => (.error reason, (s.reload st).2) := by
  rw [reloadEach]
  show (match s.conclude 0 (s.reload st).1 with | .ok r => _ | .error reason => _ : StateM σ _) _ = _
  cases s.conclude 0 (s.reload st).1 <;> rfl

theorem reloadAll_of_locked {slot : Slot σ ReloadDesk} {st : σ} (h : (slot.get st).locked = true) :
    reloadAll slot subsystems st = (.ok [ReloadDesk.turnedAway], st) := by
  show (if (slot.get st).locked = true then _ else _ : StateM σ _) st = _
  rw [if_pos h]
  rfl

theorem reloadAll_of_free {slot : Slot σ ReloadDesk} {st : σ} (h : (slot.get st).locked = false) :
    reloadAll slot subsystems st =
      let after := reloadEach [] subsystems (slot.change ReloadDesk.taken st)
      (after.1, slot.change (fun d => (d.accounted after.1 0).released) after.2) := by
  show (if (slot.get st).locked = true then _ else _ : StateM σ _) st = _
  rw [if_neg (by rw [h]; exact Bool.false_ne_true)]
  rfl

/-- The subsystems that are left can be reloaded one after another, and the results are those of
`reloadEach`. -/
theorem reloadEach_run (subsystems : List (Subsystem σ)) (slot : Slot σ ReloadDesk)
    (done : List ReloadResult) (left : List (Subsystem σ)) (aside : ∀ s ∈ left, ∀ st, slot.get (s.reload st).2 = slot.get st)
    (st : σ) (between : w.call c = .between done left) (desk : w.desk = slot.get st) :
    ∃ es w', Run subsystems es w w' ∧ (∀ e ∈ es, e.caller = c) ∧
      slot.get (reloadEach done.reverse left st).2 = w.desk ∧
      w'.desk = w.desk.accounted (reloadEach done.reverse left st).1 0 ∧
      w'.call c = .leaving (reloadEach done.reverse left st).1 := by
  induction left generalizing w done st with
  | nil =>
      have haccount : Step subsystems (.account c 0) w _ := .account between
      refine ⟨_, _, .cons haccount .nil, by simp [ReloadEvent.caller], desk.symm, ?_, ?_⟩
      · show w.desk.accounted (.ok done) 0 = w.desk.accounted (.ok done.reverse.reverse) 0
        rw [List.reverse_reverse]
      · show _ = ReloadCall.leaving (.ok done.reverse.reverse)
        rw [List.reverse_reverse, goOn_call_self]
  | cons s left ih =>
      obtain ⟨hs, hleft⟩ := List.forall_mem_cons.mp aside
      have hstart : Step subsystems (.start c s) w _ := .start between
      have hwithin : (w.goOn c (.within done s left) w.desk).call c = .within done s left :=
        goOn_call_self ..
      rw [reloadEach_cons]
      cases hcounts : s.conclude 0 (s.reload st).1 with
      | ok r =>
          have hfinish : Step subsystems (.finish c s (s.reload st).1 0) _ _ :=
            .finish hwithin hcounts
          obtain ⟨es, w', run, hcaller, hdesk, hafter, hcall⟩ :=
            ih (done ++ [r]) hleft (s.reload st).2 (goOn_call_self ..) (desk.trans (hs st).symm)
          rw [List.reverse_append] at hdesk hafter hcall
          refine ⟨_, w', .cons hstart (.cons hfinish run), ?_, hdesk, hafter, hcall⟩
          simpa [ReloadEvent.caller] using hcaller
      | error reason =>
          have hbreak : Step subsystems (.finish c s (s.reload st).1 0) _ _ :=
            .breakOff hwithin hcounts
          exact ⟨_, _, .cons hstart (.cons hbreak .nil), by simp [ReloadEvent.caller],
            (hs st).trans desk.symm, rfl, goOn_call_self ..⟩

/-- To reload everything is a run of the steps of one call, if the subsystems leave the desk alone. -/
theorem reloadAll_run {slot : Slot σ ReloadDesk} (lawful : ∀ d st, slot.get (slot.put d st) = d)
    (aside : ∀ s ∈ subsystems, ∀ st, slot.get (s.reload st).2 = slot.get st) (st : σ)
    (unmade : w.call c = .unmade) (desk : w.desk = slot.get st) :
    ∃ es w', Run subsystems es w w' ∧ (∀ e ∈ es, e.caller = c) ∧
      w'.desk = slot.get (reloadAll slot subsystems st).2 ∧
      w'.call c = .ended (reloadAll slot subsystems st).1 := by
  cases hlocked : w.desk.locked with
  | true =>
      rw [reloadAll_of_locked (desk ▸ hlocked)]
      exact ⟨_, _, .cons (.turnAway unmade hlocked) .nil, by simp [ReloadEvent.caller], desk,
        goOn_call_self ..⟩
  | false =>
      have haccept : Step subsystems (.accept c) w _ := .accept unmade hlocked
      have htaken : w.desk.taken = slot.get (slot.change ReloadDesk.taken st) := by
        rw [Slot.change, lawful, desk]
      obtain ⟨es, w', run, hcaller, hdesk, hafter, hcall⟩ :=
        reloadEach_run subsystems slot [] subsystems aside
          (slot.change ReloadDesk.taken st) (goOn_call_self w c _ w.desk.taken) htaken
      have hrelease : Step subsystems (.release c) w' _ := .release hcall
      rw [reloadAll_of_free (desk ▸ hlocked)]
      refine ⟨_, _, .cons haccept (run.append (.cons hrelease .nil)), ?_, ?_, goOn_call_self ..⟩
      · simp only [List.forall_mem_cons, List.forall_mem_append, List.not_mem_nil, false_implies,
          implies_true, and_true]
        exact ⟨rfl, hcaller, rfl⟩
      · rw [goOn_desk, hafter, ← hdesk]
        show _ = slot.get (slot.put _ _)
        rw [lawful]
        rfl

end Reception

end Conformity
