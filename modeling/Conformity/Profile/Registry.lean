import Conformity.Failure
import Conformity.Profile.Store
import Conformity.Reload.Orchestrator
import Conformity.Slot
import Conformity.Suppression.Rule

/-!
# The registry of profiles

The registry serves profiles with what they inherit, and suppression rules that are ready to be
applied, from a snapshot of the profiles document. A reload makes a new snapshot as a whole; if the
document cannot be read the old one stays. Whoever changes the document through the registry is told
the change, so that what was derived from the old profiles can be dropped. A change and the reload
that follows it hold the lock that keeps reloads apart.
-/

namespace Conformity

/-- What the registry serves. -/
structure Snapshot where
  /-- The profiles with what they inherit. -/
  profiles : Table Profile := []
  /-- The matchers of each profile. -/
  matchers : Table (List Matcher) := []
  /-- The assertions that hold for all profiles. -/
  globals : Assertions := []

namespace Snapshot

/-- The profile with a name; there is none without a name. -/
def profile? (s : Snapshot) (name : Option String) : Option Profile :=
  (name.filter fun n => !Text.isBlankText n).bind s.profiles.get?

/-- The matchers of a profile. -/
def matchersOf (s : Snapshot) (name : String) : Option (List Matcher) := s.matchers.get? name

/-- The overrides of a profile for a schema type. -/
def overridesFor (s : Snapshot) (name : Option String) (type : String) : List Override :=
  ((s.profile? name).map fun p => p.overridesFor type).getD []

/-- The assertions of a profile for a rule-set type. -/
def assertionsFor (s : Snapshot) (name : Option String) (type : String) : List Assertion :=
  ((s.profile? name).map fun p => p.assertionsFor type).getD []

/-- The assertions that hold for all profiles, for a rule-set type. -/
def globalsFor (s : Snapshot) (type : String) : List Assertion := (s.globals.get? type).getD []

/-- The matchers of profiles, and what is wrong with patterns. -/
def readyMatchers : Table Profile → Except PatternLimit (Table (List Matcher) × List String)
  | [] => .ok ([], [])
  | (name, p) :: ps => do
    let (ms, faults) ← Matcher.ofRules p.rules
    let (table, told) ← readyMatchers ps
    return ((name, ms) :: table, faults.map (fun f => name ++ ": " ++ f.message) ++ told)

/-- The snapshot of a document, and what is wrong with it, each fault once. -/
def ofDocument (d : ProfilesDocument) : Except PatternLimit (Snapshot × List String) := do
  let (profiles, failures) := Resolver.resolveAll d.profiles
  let (matchers, faults) ← readyMatchers profiles
  let broken := failures.map fun (name, e) => name ++ ": " ++ e.message
  return (⟨profiles, matchers, d.globals⟩, (d.faults ++ broken ++ faults).eraseDups)

end Snapshot

/-- A change of the profiles document. -/
inductive ProfileChange where
  /-- A profile was put. -/
  | put (profile : String)
  /-- A profile was removed, or the global assertions were replaced. -/
  | other
  deriving DecidableEq, Repr

/-- The profile that was put. -/
def ProfileChange.profile? : ProfileChange → Option String
  | .put name => some name
  | .other => none

/-- The state of the registry, with the disk. -/
structure RegistryState where
  disk : Disk
  snapshot : Snapshot := {}
  /-- Is a reload running, or a change that a reload follows? -/
  locked : Bool := false

namespace Registry

/-- Something done with the registry. -/
abbrev Work (α : Type) := ExceptT Failure (StateM RegistryState) α

/-- Where the disk lies. -/
def disk : Slot RegistryState Disk := ⟨RegistryState.disk, fun d s => { s with disk := d }⟩

/-- Where the lock of reloads lies. -/
def lock : Slot RegistryState Bool := ⟨RegistryState.locked, fun b s => { s with locked := b }⟩

/-- Does something with the disk. -/
def onDisk {α : Type} (a : Disk.Action α) : Work α := disk.lift a

/-- The name of this part of the program. -/
def component : String := "Validation Profiles"

/-- Makes a new snapshot of the document. -/
def reload (store : ProfileStore) : Work ReloadResult := do
  let document ← tryCatch ((onDisk store.load).map Except.ok) fun e =>
    if e.isOwn || e.isSystem then return .error e else throw e
  match document with
  | .error e => return .failure component e.message
  | .ok d =>
    match Snapshot.ofDocument d with
    | .error l => throw (.ofLimit l)
    | .ok (snapshot, faults) =>
      modify fun s => { s with snapshot }
      return .ofCount component snapshot.profiles.length 0 faults

/-- Puts a profile into the document. -/
def save (store : ProfileStore) (p : Profile) : Work ProfileChange := do
  if Text.isBlankText p.name then throw (.refused .blankProfile)
  else
    lock.holding do
      onDisk (store.put p)
      let _ ← reload store
      return .put p.name

/-- Removes a profile from the document, if it is there. -/
def delete (store : ProfileStore) (name : String) : Work (Option ProfileChange) :=
  lock.holding do
    if ← onDisk (store.remove name) then
      let _ ← reload store
      return some .other
    else return none

/-- Replaces the global assertions in the document. -/
def saveGlobals (store : ProfileStore) (globals : Assertions) : Work ProfileChange :=
  lock.holding do
    onDisk (store.putGlobals (globals.filter fun e => !e.2.isEmpty))
    let _ ← reload store
    return .other

end Registry

end Conformity
