import Conformity.Proofs.Profile.Edit
import Mathlib.Logic.Function.Basic
import Mathlib.Logic.Relation

/-!
# Editors of one registry

Any number of calls edit the profiles document or reload everything, on one registry with one lock. A
call takes the steps between which other calls may take theirs: an edit waits for the lock, reads the
document, writes it, loads it again and publishes a snapshot; a reload of everything is turned away if
the lock is held, and otherwise loads the document and publishes a snapshot. Each call is made once; who
calls again is another call.

An edit by itself is a run of one call (`Editors.reaches_of_edit`), and so is a reload
(`Editors.reaches_of_reload`).
-/

namespace Conformity

namespace ProfileStore

variable {s : ProfileStore} {disk disk' : Disk}

/-- The root of a document that is not there. -/
def emptyRoot : Root := ⟨0, [(.text profilesKey, .map 0 [])]⟩

/-- The root of a document that may not be there. -/
def rootOf? (s : ProfileStore) : Option Bytes → Except Failure Root
  | some content => s.rootOf content
  | none => .ok emptyRoot

/-- No name on the way to the document is too long for a file system; a document beyond such a name
could neither be looked for nor be written. -/
def HasFittingPath (s : ProfileStore) : Prop :=
  ∀ place, s.storage.place s.path = .ok place → ∀ name ∈ place, ¬ Disk.isTooLong name

theorem seek_eq_error {folder : Path.Place} {names : List String} {f : SystemFault}
    (fits : ∀ name ∈ names, ¬ Disk.isTooLong name) (h : disk.seek folder names = .error f) :
    f = .notFound ∨ f = .notFolder := by
  induction names generalizing folder with
  | nil => cases h
  | cons name names ih =>
      rw [List.forall_mem_cons] at fits
      unfold Disk.seek at h
      rw [if_neg fits.1] at h
      split at h
      · cases h
        exact .inl rfl
      · exact ih fits.2 h
      · split at h
        · cases h
        · cases h
          exact .inr rfl

theorem resultOf_isAsset_of_document_eq_none (fits : s.HasFittingPath)
    (h : s.document disk = none) :
    resultOf (s.storage.isAsset s.path) disk = (.ok false, disk) := by
  unfold document at h
  unfold Storage.isAsset
  cases hplace : s.storage.place s.path with
  | error e => rfl
  | ok place =>
      rw [hplace] at h
      show resultOf (Disk.look place >>= _) disk = _
      cases hfind : disk.find place with
      | ok node =>
          rw [resultOf_bind, Disk.resultOf_look_of_ok hfind]
          cases node with
          | folder => rfl
          | file content =>
              have hcontent : disk.content? place = some content :=
                Disk.content?_eq_some_iff.mpr (Disk.find_eq_ok_iff.mp hfind)
              cases hcontent.symm.trans h
      | error f =>
          unfold Disk.look
          rw [resultOf_bind, resultOf_bind, resultOf_get]
          dsimp only
          rw [hfind]
          obtain rfl | rfl := seek_eq_error (fits place hplace) hfind
          · rfl
          · rfl

/-- What is read follows from the content of the document. -/
theorem loadRoot_eq (fits : s.HasFittingPath) (disk : Disk) :
    (resultOf s.loadRoot disk).1 = s.rootOf? (s.document disk) := by
  cases hdocument : s.document disk with
  | some content => exact congrArg Prod.fst (resultOf_loadRoot_of_document hdocument)
  | none =>
      unfold loadRoot
      rw [resultOf_bind, resultOf_isAsset_of_document_eq_none fits hdocument]
      rfl

/-- What is loaded follows from the root. -/
theorem load_eq (s : ProfileStore) (disk : Disk) :
    (resultOf s.load disk).1 = (resultOf s.loadRoot disk).1 >>= readRoot := by
  unfold load
  rw [resultOf_bind]
  rcases resultOf s.loadRoot disk with ⟨r, disk₁⟩
  cases r with
  | error e => rfl
  | ok r =>
      show (resultOf _ disk₁).1 = readRoot r
      cases readRoot r <;> rfl

/-- The document is what it was, and everything lies in folders. -/
structure Unchanged (s : ProfileStore) (disk disk' : Disk) : Prop where
  document : s.document disk' = s.document disk
  tree : disk.IsTree → disk'.IsTree

end ProfileStore

namespace Registry

open ProfileStore

/-- What a call is made for. -/
inductive Errand where
  | edit (e : Edit)
  /-- Everything is reloaded. -/
  | reload

namespace Errand

/-- The change that an errand makes when it has come to its end. -/
def change? : Errand → Option ProfileChange
  | edit e => some e.change
  | reload => none

end Errand

/-- How far a call has come. From `entered` to `leaving` it holds the lock. -/
inductive Stage where
  | unmade
  /-- An edit waits for the lock. -/
  | waiting (e : Edit)
  /-- An edit has got the lock. -/
  | entered (e : Edit)
  /-- An edit has read the document. -/
  | opened (e : Edit) (r : Root)
  /-- The document is to be loaded; an edit has written it, with these entries. -/
  | reloading (errand : Errand) (wrote : Option Data.Fields)
  /-- The document is loaded, or cannot be loaded. -/
  | loaded (errand : Errand) (wrote : Option Data.Fields)
      (document : Except Failure ProfilesDocument)
  /-- Nothing is left to be done with the registry. -/
  | leaving (errand : Errand) (wrote : Option Data.Fields)
      (result : Except Failure (Option ProfileChange))
  | ended (errand : Errand) (wrote : Option Data.Fields)
      (result : Except Failure (Option ProfileChange))

namespace Stage

/-- Does the call hold the lock? -/
def isInside : Stage → Bool
  | entered _ | opened .. | reloading .. | loaded .. | leaving .. => true
  | unmade | waiting _ | ended .. => false

/-- Is the call done with waiting for the lock? -/
def isPast : Stage → Bool
  | unmade | waiting _ => false
  | entered _ | opened .. | reloading .. | loaded .. | leaving .. | ended .. => true

/-- Is the call about to write? -/
def isEditing : Stage → Bool
  | entered _ | opened .. => true
  | _ => false

/-- Has the call written a document that it has not published? -/
def isStale : Stage → Bool
  | reloading _ wrote | loaded _ wrote _ => wrote.isSome
  | _ => false

/-- The edit that the call has written, and the entries of the document. -/
def wrote? : Stage → Option (Edit × Data.Fields)
  | reloading (.edit e) wrote | loaded (.edit e) wrote _ | leaving (.edit e) wrote _
  | ended (.edit e) wrote _ => wrote.map (e, ·)
  | _ => none

/-- What came of the call, when nothing is left to be done with the registry. -/
def result? : Stage → Option (Except Failure (Option ProfileChange))
  | leaving _ _ result | ended _ _ result => some result
  | _ => none

end Stage

/-- A registry among its callers. -/
structure Editors (ι : Type) where
  registry : RegistryState
  stage : ι → Stage
  /-- The calls that have got the lock, in order. -/
  turns : List ι
  /-- How many reloads of the registry have come to their end. -/
  reloads : Nat

namespace Editors

variable {ι : Type}

/-- A registry that nobody has called. -/
def start (disk : Disk) (snapshot : Snapshot) : Editors ι :=
  ⟨{ disk, snapshot }, fun _ => .unmade, [], 0⟩

/-- The content of the document. -/
def document (store : ProfileStore) (w : Editors ι) : Option Bytes := store.document w.registry.disk

/-- Who has written what, in the order in which the calls got the lock. -/
def written (w : Editors ι) : List (ι × Edit × Data.Fields) :=
  w.turns.filterMap fun c => (w.stage c).wrote?.map (c, ·)

variable [DecidableEq ι]

/-- Editors of whom one has come to another stage. -/
def setStage (w : Editors ι) (c : ι) (x : Stage) : Editors ι :=
  { w with stage := Function.update w.stage c x }

@[simp] theorem setStage_registry (w : Editors ι) (c : ι) (x : Stage) :
    (w.setStage c x).registry = w.registry := rfl

@[simp] theorem setStage_turns (w : Editors ι) (c : ι) (x : Stage) :
    (w.setStage c x).turns = w.turns := rfl

@[simp] theorem setStage_stage_self (w : Editors ι) (c : ι) (x : Stage) :
    (w.setStage c x).stage c = x :=
  Function.update_self ..

theorem setStage_stage_of_ne {c c' : ι} (h : c' ≠ c) (w : Editors ι) (x : Stage) :
    (w.setStage c x).stage c' = w.stage c' :=
  Function.update_of_ne h ..

/-- Editors whose registry has changed. -/
def setRegistry (w : Editors ι) (st : RegistryState) : Editors ι := { w with registry := st }

/-- A call gets the lock, as the next in turn. -/
def enter (w : Editors ι) (c : ι) (x : Stage) : Editors ι :=
  { w with registry := { w.registry with locked := true }, turns := w.turns ++ [c] }.setStage c x

/-- A call publishes a snapshot of what it has loaded, if one can be made. -/
def publish (w : Editors ι) (c : ι) (errand : Errand) (wrote : Option Data.Fields)
    (d : Except Failure ProfilesDocument) : Editors ι :=
  { (w.setRegistry (reloaded d w.registry).2).setStage c
      (.leaving errand wrote ((reloaded d w.registry).1.map fun _ => errand.change?)) with
    reloads := w.reloads + 1 }

/-- One thing that happens at once. -/
inductive Step (store : ProfileStore) : Editors ι → Editors ι → Prop
  /-- An edit is asked for. -/
  | ask {w : Editors ι} {c : ι} {e : Edit} (unmade : w.stage c = .unmade) (proper : ¬ e.IsRefused) :
      Step store w (w.setStage c (.waiting e))
  /-- An edit is refused before it waits for the lock. -/
  | refuse {w : Editors ι} {c : ι} {e : Edit} (unmade : w.stage c = .unmade)
      (refused : e.IsRefused) :
      Step store w (w.setStage c (.ended (.edit e) none (.error (.refused .blankProfile))))
  /-- A reload of everything finds the lock held. -/
  | turnAway {w : Editors ι} {c : ι} (unmade : w.stage c = .unmade)
      (held : w.registry.locked = true) :
      Step store w (w.setStage c (.ended .reload none (.ok none)))
  | enter {w : Editors ι} {c : ι} {e : Edit} (waiting : w.stage c = .waiting e)
      (free : w.registry.locked = false) : Step store w (w.enter c (.entered e))
  /-- A reload of everything finds the lock free. -/
  | enterReload {w : Editors ι} {c : ι} (unmade : w.stage c = .unmade)
      (free : w.registry.locked = false) : Step store w (w.enter c (.reloading .reload none))
  | read {w : Editors ι} {c : ι} {e : Edit} {r : Root} (entered : w.stage c = .entered e)
      (found : (resultOf store.loadRoot w.registry.disk).1 = .ok r) :
      Step store w (w.setStage c (.opened e r))
  /-- The document cannot be read. -/
  | unread {w : Editors ι} {c : ι} {e : Edit} {f : Failure} (entered : w.stage c = .entered e)
      (found : (resultOf store.loadRoot w.registry.disk).1 = .error f) :
      Step store w (w.setStage c (.leaving (.edit e) none (.error f)))
  /-- There is nothing to edit. -/
  | absent {w : Editors ι} {c : ι} {e : Edit} {r : Root} (opened : w.stage c = .opened e r)
      (nothing : e.entries? r = none) :
      Step store w (w.setStage c (.leaving (.edit e) none (.ok none)))
  | write {w : Editors ι} {c : ι} {e : Edit} {r : Root} {entries : Data.Fields} {disk : Disk}
      (opened : w.stage c = .opened e r) (edited : e.entries? r = some entries)
      (written : resultOf (store.writeRoot entries) w.registry.disk = (.ok ⟨⟩, disk)) :
      Step store w
        ((w.setRegistry { w.registry with disk }).setStage c (.reloading (.edit e) (some entries)))
  /-- The document cannot be written. -/
  | unwritten {w : Editors ι} {c : ι} {e : Edit} {r : Root} {entries : Data.Fields} {f : Failure}
      {disk : Disk} (opened : w.stage c = .opened e r) (edited : e.entries? r = some entries)
      (written : resultOf (store.writeRoot entries) w.registry.disk = (.error f, disk)) :
      Step store w
        ((w.setRegistry { w.registry with disk }).setStage c (.leaving (.edit e) none (.error f)))
  | load {w : Editors ι} {c : ι} {errand : Errand} {wrote : Option Data.Fields}
      (reloading : w.stage c = .reloading errand wrote) :
      Step store w (w.setStage c (.loaded errand wrote (resultOf store.load w.registry.disk).1))
  | publish {w : Editors ι} {c : ι} {errand : Errand} {wrote : Option Data.Fields}
      {d : Except Failure ProfilesDocument} (loaded : w.stage c = .loaded errand wrote d) :
      Step store w (w.publish c errand wrote d)
  | leave {w : Editors ι} {c : ι} {errand : Errand} {wrote : Option Data.Fields}
      {result : Except Failure (Option ProfileChange)}
      (leaving : w.stage c = .leaving errand wrote result) :
      Step store w ((w.setRegistry (Edit.freed w.registry)).setStage c (.ended errand wrote result))
  /-- The lock is taken once more, for what is not done with the registry. -/
  | reenter {w : Editors ι} {c : ι} {errand : Errand} {wrote : Option Data.Fields}
      {result : Except Failure (Option ProfileChange)}
      (ended : w.stage c = .ended errand wrote result) (free : w.registry.locked = false) :
      Step store w
        ((w.setRegistry { w.registry with locked := true }).setStage c
          (.leaving errand wrote result))
  /-- Something happens to the disk that leaves the document alone. -/
  | elsewhere {w : Editors ι} {disk : Disk} (unchanged : store.Unchanged w.registry.disk disk) :
      Step store w (w.setRegistry { w.registry with disk })

/-- Steps of any calls, in any order. -/
abbrev Reaches (store : ProfileStore) : Editors ι → Editors ι → Prop :=
  Relation.ReflTransGen (Step store)

variable {store : ProfileStore} {w w' : Editors ι} {c : ι}

/-! ## A call by itself -/

/-- A call has ended, and nothing else has happened to the calls. -/
structure HasEnded (w w' : Editors ι) (c : ι) (x : Stage) : Prop where
  stage : w'.stage = Function.update w.stage c x
  turns : w'.turns = w.turns ++ [c]
  reloads : w.reloads ≤ w'.reloads

/-- What follows when the document is to be loaded. -/
theorem reaches_of_reloading {errand : Errand} {wrote : Option Data.Fields}
    (reloading : w.stage c = .reloading errand wrote) :
    ∃ w', Reaches store w w' ∧
      w'.registry = Edit.freed (resultOf (reload store) w.registry).2 ∧
      w'.turns = w.turns ∧ w'.reloads = w.reloads + 1 ∧
      w'.stage = Function.update w.stage c (.ended errand wrote
        ((resultOf (reload store) w.registry).1.map fun _ => errand.change?)) := by
  have hload : Reaches store w _ := .single (.load reloading)
  have hpublish := hload.tail (.publish (setStage_stage_self ..))
  have hleave := hpublish.tail (.leave (setStage_stage_self ..))
  refine ⟨_, hleave, ?_, rfl, rfl, ?_⟩
  · rw [resultOf_reload]
    rfl
  · rw [resultOf_reload]
    simp only [publish, setStage, setRegistry, Function.update_idem]

/-- An edit that waits for a free lock and is not disturbed does what it does by itself. -/
theorem reaches_of_waiting {e : Edit} (waiting : w.stage c = .waiting e)
    (free : w.registry.locked = false) (proper : ¬ e.IsRefused) :
    ∃ w' wrote, Reaches store w w' ∧ w'.registry = (resultOf (e.run store) w.registry).2 ∧
      HasEnded w w' c (.ended (.edit e) wrote (resultOf (e.run store) w.registry).1) ∧
      ∀ change, (resultOf (e.run store) w.registry).1 = .ok (some change) → ∃ r entries,
        (resultOf store.loadRoot w.registry.disk).1 = .ok r ∧ e.entries? r = some entries ∧
          wrote = some entries := by
  have hends := Edit.ends_run store w.registry e
  rcases hrun : resultOf (e.run store) w.registry with ⟨result, st⟩
  rw [hrun] at hends
  have henter : Reaches store w _ := .single (.enter waiting free)
  have hat : ∀ x, (w.enter c x).stage c = x := fun x => setStage_stage_self ..
  cases hends with
  | refused hrefused => exact absurd hrefused proper
  | unread hload =>
      have hunread := henter.tail (.unread (hat _) hload)
      have hleave := hunread.tail (.leave (setStage_stage_self ..))
      refine ⟨_, none, hleave, rfl, ⟨?_, rfl, le_rfl⟩, nofun⟩
      simp only [setStage, setRegistry, Editors.enter, Function.update_idem]
  | @absent r hload hentries =>
      have hread := henter.tail (.read (hat _) hload)
      have habsent := hread.tail (.absent (setStage_stage_self ..) hentries)
      have hleave := habsent.tail (.leave (setStage_stage_self ..))
      refine ⟨_, none, hleave, rfl, ⟨?_, rfl, le_rfl⟩, nofun⟩
      simp only [setStage, setRegistry, Editors.enter, Function.update_idem]
  | unwritten hload hentries hwrite =>
      have hread := henter.tail (.read (hat _) hload)
      have hunwritten := hread.tail (.unwritten (setStage_stage_self ..) hentries hwrite)
      have hleave := hunwritten.tail (.leave (setStage_stage_self ..))
      refine ⟨_, none, hleave, rfl, ⟨?_, rfl, le_rfl⟩, nofun⟩
      simp only [setStage, setRegistry, Editors.enter, Function.update_idem]
  | @written r entries disk _ hload hentries hwrite =>
      have hread := henter.tail (.read (hat _) hload)
      have hwritten := hread.tail (.write (setStage_stage_self ..) hentries hwrite)
      -- the lock is held while the document is loaded again, which a reload does not look at
      obtain ⟨hresult, hregistry⟩ :=
        Edit.freed_reload store { w.registry with disk } true
      obtain ⟨w', hreaches, hw', hturns, hreloads, hstage⟩ :=
        reaches_of_reloading
          (w := (((w.enter c (.entered e)).setStage c (.opened e r)).setRegistry
            { w.registry with disk, locked := true }).setStage c
              (.reloading (.edit e) (some entries)))
          (setStage_stage_self ..)
      refine ⟨w', some entries, hwritten.trans hreaches, hw'.trans hregistry,
        ⟨?_, hturns, hreloads ▸ Nat.le_succ _⟩, fun _ _ => ⟨r, entries, hload, hentries, rfl⟩⟩
      rw [hstage, ← hresult]
      simp only [setStage, setRegistry, Editors.enter, Function.update_idem]
      rfl

theorem resultOf_run_of_isRefused {e : Edit} (h : e.IsRefused) (st : RegistryState) :
    resultOf (e.run store) st = (.error (.refused .blankProfile), st) := by
  cases e with
  | save p =>
      have hname : Text.isBlankText p.name := h
      unfold Edit.run Registry.save
      dsimp only
      rw [if_pos hname]
      rfl
  | delete name => exact h.elim
  | saveGlobals globals => exact h.elim

/-- An edit by itself is a run of one call. -/
theorem reaches_of_edit (e : Edit) (unmade : w.stage c = .unmade)
    (free : w.registry.locked = false) :
    ∃ w' wrote, Reaches store w w' ∧ w'.registry = (resultOf (e.run store) w.registry).2 ∧
      w'.stage = Function.update w.stage c
        (.ended (.edit e) wrote (resultOf (e.run store) w.registry).1) := by
  by_cases hrefused : e.IsRefused
  · rw [resultOf_run_of_isRefused hrefused]
    exact ⟨_, none, .single (.refuse unmade hrefused), rfl, rfl⟩
  · obtain ⟨w', wrote, hreaches, hregistry, ⟨hstage, -, -⟩, -⟩ :=
      reaches_of_waiting (w := w.setStage c (.waiting e))
        (setStage_stage_self ..) free hrefused
    refine ⟨w', wrote, .head (.ask unmade hrefused) hreaches, hregistry, ?_⟩
    rw [hstage]
    simp only [setStage, Function.update_idem]

/-- A reload by itself is a run of one call. -/
theorem reaches_of_reload (unmade : w.stage c = .unmade) (free : w.registry.locked = false) :
    ∃ w', Reaches store w w' ∧
      w'.registry = (resultOf (lock.holding (reload store)) w.registry).2 ∧
      HasEnded w w' c (.ended .reload none
        ((resultOf (lock.holding (reload store)) w.registry).1.map fun _ => none)) := by
  have henter : Reaches store w _ := .single (.enterReload unmade free)
  obtain ⟨w', hreaches, hregistry, hturns, hreloads, hstage⟩ :=
    reaches_of_reloading (w := w.enter c (.reloading .reload none))
      (setStage_stage_self ..)
  refine ⟨w', henter.trans hreaches, hregistry, ?_, hturns, hreloads ▸ Nat.le_succ _⟩
  rw [hstage]
  simp only [setStage, Editors.enter, Function.update_idem]
  rfl

end Editors

end Registry

end Conformity
