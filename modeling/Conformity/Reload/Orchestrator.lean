import Conformity.Data.Value
import Conformity.Slot

/-!
# Reloading

The result of reloading a part of the program tells how much was loaded, and what went wrong. All parts
are reloaded one after another, whatever becomes of any of them. Only one reload runs at a time: a second
one is turned away at once and changes nothing. The desk is locked while a reload runs, and is unlocked
again even if it is interrupted.
-/

namespace Conformity

/-! ## Results -/

/-- How a reload came out. -/
inductive ReloadStatus where
  /-- Everything was loaded. -/
  | ok
  /-- Something was loaded. -/
  | partly
  | failed
  /-- Another reload was running. -/
  | skipped
  deriving DecidableEq, Repr

namespace ReloadStatus

/-- The name of a status. -/
def name : ReloadStatus → String
  | ok => "OK"
  | partly => "PARTIAL"
  | failed => "FAILED"
  | skipped => "SKIPPED"

end ReloadStatus

/-- What came of reloading a component. -/
structure ReloadResult where
  component : String
  status : ReloadStatus
  loaded : Int := 0
  /-- How long it took, in milliseconds. -/
  elapsed : Int := 0
  errors : List String := []
  deriving DecidableEq, Repr

namespace ReloadResult

/-- Is the component fully usable? -/
def isOk (r : ReloadResult) : Bool := r.status == .ok

/-- The result of a reload that failed as a whole. -/
def failure (component : String) (error : String) : ReloadResult :=
  { component, status := .failed, errors := [error] }

/-- The result that follows from how much was loaded and what went wrong. -/
def ofCount (component : String) (count elapsed : Int) (errors : List String) : ReloadResult :=
  if errors.isEmpty then { component, status := .ok, loaded := count, elapsed }
  else if 0 < count then { component, status := .partly, loaded := count, elapsed, errors }
  else { component, status := .failed, elapsed, errors }

/-- A result as a record. -/
def toData (r : ReloadResult) : Data :=
  .ofEntries [("component", .text r.component), ("status", .text r.status.name),
    ("loadedCount", .int r.loaded), ("durationMs", .int r.elapsed), ("errors", .texts r.errors),
    ("ok", .bool r.isOk)]

end ReloadResult

/-! ## Reloading everything -/

/-- How the reload of a subsystem ends. -/
inductive Reloaded where
  | result (r : ReloadResult)
  /-- It breaks off for a reason. -/
  | broken (reason : String)
  /-- The program is to stop. -/
  | interrupted (reason : String)

/-- A part of the program that can be reloaded. -/
structure Subsystem (σ : Type) where
  name : String
  reload : StateM σ Reloaded

/-- Where reloads are accounted for. -/
structure ReloadDesk where
  /-- Is a reload running, or something that must not meet one? -/
  locked : Bool := false
  /-- The results of the last reload that ran to its end. -/
  last : Option (List ReloadResult) := none
  /-- How long that reload took, in milliseconds. -/
  lastElapsed : Option Int := none
  deriving DecidableEq, Repr

namespace ReloadDesk

/-- Did the last reload succeed in every part? -/
def lastSuccess (d : ReloadDesk) : Option Bool := d.last.map fun rs => rs.all ReloadResult.isOk

/-- The result of a reload that is turned away. -/
def turnedAway : ReloadResult :=
  { component := "ReloadOrchestrator", status := .skipped,
    errors := ["Reload already in progress"] }

/-- The desk while a reload runs. -/
def taken (d : ReloadDesk) : ReloadDesk := { d with locked := true }

/-- The desk after a reload; one that was interrupted leaves no account. -/
def accounted (results : Except String (List ReloadResult)) (elapsed : Int) (d : ReloadDesk) :
    ReloadDesk :=
  match results with
  | .ok rs => { d with last := some rs, lastElapsed := some elapsed }
  | .error _ => d

/-- The desk for the next reload. -/
def released (d : ReloadDesk) : ReloadDesk := { d with locked := false }

end ReloadDesk

variable {σ : Type}

/-- What a subsystem contributes to the results when its reload has ended, some milliseconds after it
began. An interruption contributes nothing. -/
def Subsystem.conclude (s : Subsystem σ) (elapsed : Int) : Reloaded → Except String ReloadResult
  | .result r => .ok r
  | .broken reason =>
    .ok { ReloadResult.failure s.name (s.name ++ " reload failed: " ++ reason) with elapsed }
  | .interrupted reason => .error reason

/-- Reloads subsystems one after another, `done` being the results so far, last one first. An
interruption ends the work. -/
def reloadEach (done : List ReloadResult) :
    List (Subsystem σ) → StateM σ (Except String (List ReloadResult))
  | [] => return .ok done.reverse
  | s :: rest => do
    match s.conclude 0 (← s.reload) with
    | .ok r => reloadEach (r :: done) rest
    | .error reason => return .error reason

/-- Reloads all subsystems, unless a reload is running. The clock stands still meanwhile. -/
def reloadAll (desk : Slot σ ReloadDesk) (subsystems : List (Subsystem σ)) :
    StateM σ (Except String (List ReloadResult)) := do
  if (desk.get (← get)).locked then return .ok [ReloadDesk.turnedAway]
  else
    modify (desk.change ReloadDesk.taken)
    let results ← reloadEach [] subsystems
    modify (desk.change fun d => (d.accounted results 0).released)
    return results

end Conformity
