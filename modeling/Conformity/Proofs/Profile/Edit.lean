import Conformity.Proofs.Profile.Reload

/-!
# Edits of the profiles document

An edit reads the document, writes it anew and reloads it. It is atomic exactly if the document that
it writes can be reloaded (`Registry.Edit.isAtomic_run_iff`): the write comes before the reload, and a
reload that breaks off leaves the new document behind with the old snapshot.
-/

namespace Conformity.Registry

open ProfileStore

/-- A change that is asked of the registry. -/
inductive Edit where
  | save (profile : Profile)
  | delete (name : String)
  | saveGlobals (globals : Assertions)

namespace Edit

/-- Carries an edit out; nothing comes of removing a profile that is not there. -/
def run (store : ProfileStore) : Edit → Work (Option ProfileChange)
  | save p => (Registry.save store p).map some
  | delete name => Registry.delete store name
  | saveGlobals globals => (Registry.saveGlobals store globals).map some

/-- The change that an edit makes. -/
def change : Edit → ProfileChange
  | save p => .put p.name
  | delete _ | saveGlobals _ => .other

/-- A profile with a blank name is refused. -/
def IsRefused : Edit → Prop
  | save p => Text.isBlankText p.name
  | delete _ | saveGlobals _ => False

/-- The entries of the document after an edit, if there is something to edit. -/
def entries? (r : Root) : Edit → Option Data.Fields
  | save p => some (r.withRecords (Data.insert (.text p.name) p.record r.records)).entries
  | delete name =>
    if (Data.field name r.records).isNone then none
    else some (r.withRecords (Data.erase (.text name) r.records)).entries
  | saveGlobals globals =>
    let others := Data.erase (.text assertionsKey) r.entries
    let kept := globals.filter fun e => !e.2.isEmpty
    some (if kept.isEmpty then others
      else (.text assertionsKey, Profile.sectionRecord Assertion.record kept) :: others)

/-- The document with some entries. -/
def printed (entries : Data.Fields) : Bytes := Text.encode (Yaml.print (.map 0 entries))

/-- The registry with a free lock. -/
def freed (st : RegistryState) : RegistryState := { st with locked := false }

/-- How an edit can end. -/
inductive Ends (store : ProfileStore) (st : RegistryState) (edit : Edit) :
    Except Failure (Option ProfileChange) × RegistryState → Prop
  | refused : edit.IsRefused → Ends store st edit (.error (.refused .blankProfile), st)
  /-- The document cannot be read. -/
  | unread {e : Failure} : (resultOf store.loadRoot st.disk).1 = .error e →
      Ends store st edit (.error e, freed st)
  /-- There is nothing to edit. -/
  | absent {r : Root} : (resultOf store.loadRoot st.disk).1 = .ok r → edit.entries? r = none →
      Ends store st edit (.ok none, freed st)
  /-- The document cannot be written. -/
  | unwritten {r : Root} {entries : Data.Fields} {e : Failure} {disk : Disk} :
      (resultOf store.loadRoot st.disk).1 = .ok r → edit.entries? r = some entries →
        resultOf (store.writeRoot entries) st.disk = (.error e, disk) →
          Ends store st edit (.error e, freed { st with disk })
  /-- The document is written, and reloaded. -/
  | written {r : Root} {entries : Data.Fields} {disk : Disk} :
      ¬ edit.IsRefused →
      (resultOf store.loadRoot st.disk).1 = .ok r → edit.entries? r = some entries →
        resultOf (store.writeRoot entries) st.disk = (.ok ⟨⟩, disk) →
          Ends store st edit
            ((resultOf (reload store) { st with disk }).1.map fun _ => some edit.change,
              freed (resultOf (reload store) { st with disk }).2)

variable {store : ProfileStore} {st : RegistryState} {edit : Edit}

theorem resultOf_loadRoot_bind {α : Type} (store : ProfileStore) (disk : Disk)
    (f : Root → Disk.Action α) : resultOf (store.loadRoot >>= f) disk =
      match (resultOf store.loadRoot disk).1 with
      | .ok r => resultOf (f r) disk
      | .error e => (.error e, disk) := by
  rw [resultOf_bind]
  have hkeeps := keeps_loadRoot store disk
  rcases hload : resultOf store.loadRoot disk with ⟨r, disk'⟩
  rw [hload] at hkeeps
  obtain rfl : disk' = disk := hkeeps
  cases r <;> rfl

/-- What an edit does to the disk. -/
def stored (store : ProfileStore) (edit : Edit) (disk : Disk) : Except Failure Bool × Disk :=
  match (resultOf store.loadRoot disk).1 with
  | .error e => (.error e, disk)
  | .ok r =>
    match edit.entries? r with
    | none => (.ok false, disk)
    | some entries =>
      let (result, disk) := resultOf (store.writeRoot entries) disk
      (result.map fun _ => true, disk)

theorem resultOf_put (p : Profile) (disk : Disk) : resultOf (store.put p) disk =
    ((stored store (.save p) disk).1.map fun _ => ⟨⟩, (stored store (.save p) disk).2) := by
  unfold put stored
  rw [resultOf_loadRoot_bind]
  cases (resultOf store.loadRoot disk).1 with
  | error e => rfl
  | ok r =>
      dsimp only [entries?]
      rcases resultOf (store.writeRoot _) disk with ⟨result, disk'⟩
      cases result <;> rfl

theorem resultOf_remove (name : String) (disk : Disk) :
    resultOf (store.remove name) disk = stored store (.delete name) disk := by
  unfold remove stored
  rw [resultOf_loadRoot_bind]
  cases (resultOf store.loadRoot disk).1 with
  | error e => rfl
  | ok r =>
      dsimp only [entries?]
      by_cases h : (Data.field name r.records).isNone
      · rw [if_pos h, if_pos h]
        rfl
      · rw [if_neg h, if_neg h, resultOf_bind]
        dsimp only
        rcases resultOf (store.writeRoot _) disk with ⟨result, disk'⟩
        cases result <;> rfl

theorem resultOf_putGlobals (globals : Assertions) (disk : Disk) :
    resultOf (store.putGlobals (globals.filter fun e => !e.2.isEmpty)) disk =
      ((stored store (.saveGlobals globals) disk).1.map fun _ => ⟨⟩,
        (stored store (.saveGlobals globals) disk).2) := by
  unfold putGlobals stored
  rw [resultOf_loadRoot_bind]
  cases (resultOf store.loadRoot disk).1 with
  | error e => rfl
  | ok r =>
      dsimp only [entries?]
      by_cases h : (globals.filter fun e => !e.2.isEmpty).isEmpty
      · rw [if_pos h, if_pos h]
        rcases resultOf (store.writeRoot _) disk with ⟨result, disk'⟩
        cases result <;> rfl
      · rw [if_neg h, if_neg h]
        rcases resultOf (store.writeRoot _) disk with ⟨result, disk'⟩
        cases result <;> rfl

/-- A reload does not look at the lock. -/
theorem freed_reload (store : ProfileStore) (st : RegistryState) (locked : Bool) :
    (resultOf (reload store) { st with locked }).1 = (resultOf (reload store) st).1 ∧
      freed (resultOf (reload store) { st with locked }).2 = freed (resultOf (reload store) st).2 := by
  rw [resultOf_reload, resultOf_reload]
  cases (resultOf store.load st.disk).1 with
  | error e => exact ⟨rfl, rfl⟩
  | ok d =>
      unfold reloaded
      dsimp only
      cases Snapshot.ofDocument d <;> exact ⟨rfl, rfl⟩

theorem stored_ne_false (store : ProfileStore) {edit : Edit} (h : ∀ r, edit.entries? r ≠ none)
    (disk : Disk) : (stored store edit disk).1 ≠ .ok false := by
  unfold stored
  cases (resultOf store.loadRoot disk).1 with
  | error e => simp
  | ok r =>
      dsimp only
      cases hentries : edit.entries? r with
      | none => exact absurd hentries (h r)
      | some entries =>
          dsimp only
          cases (resultOf (store.writeRoot entries) disk).1 <;> simp [Except.map]

/-- What becomes of the reload that follows an edit. -/
def afterReload {α : Type} (store : ProfileStore) (st : RegistryState) (a : α) :
    Except Failure α × RegistryState :=
  ((resultOf (reload store) st).1.map fun _ => a, freed (resultOf (reload store) st).2)

theorem resultOf_reload_held {α : Type} (st : RegistryState) (disk : Disk) (a : α) :
    let held : RegistryState := { st with disk, locked := true }
    let work : Work α := do
      let _ ← reload store
      return a
    ((resultOf work held).1, freed (resultOf work held).2) =
      afterReload store { st with disk } a := by
  obtain ⟨hresult, hstate⟩ := freed_reload store { st with disk } true
  dsimp only
  unfold afterReload
  rw [← hresult, ← hstate, resultOf_bind]
  rcases resultOf (reload store) { st with disk, locked := true } with ⟨result, st'⟩
  cases result <;> rfl

/-- Something done to the disk, and reloaded. -/
theorem resultOf_holding_reload (a : Disk.Action Unit) (c : ProfileChange) (st : RegistryState) :
    resultOf (lock.holding do
      onDisk a
      let _ ← reload store
      return c) st =
      match resultOf a st.disk with
      | (.error e, disk) => (.error e, freed { st with disk })
      | (.ok _, disk) => afterReload store { st with disk } c := by
  rw [resultOf_holding, resultOf_bind, resultOf_onDisk]
  dsimp only [lock]
  rcases resultOf a st.disk with ⟨result, disk⟩
  cases result with
  | error e => rfl
  | ok => exact resultOf_reload_held st disk c

/-- What follows on the disk's part of an edit. -/
def followed (store : ProfileStore) (edit : Edit) (st : RegistryState) :
    Except Failure Bool × Disk → Except Failure (Option ProfileChange) × RegistryState
  | (.error e, disk) => (.error e, freed { st with disk })
  | (.ok false, disk) => (.ok none, freed { st with disk })
  | (.ok true, disk) => afterReload store { st with disk } (some edit.change)

theorem map_afterReload {α β : Type} (store : ProfileStore) (st : RegistryState) (a : α) (f : α → β) :
    ((afterReload store st a).1.map f, (afterReload store st a).2) = afterReload store st (f a) := by
  unfold afterReload
  cases (resultOf (reload store) st).1 <;> rfl

theorem map_followed (edit : Edit) {a : Disk.Action Unit} (ha : resultOf a st.disk =
      ((stored store edit st.disk).1.map fun _ => ⟨⟩, (stored store edit st.disk).2))
    (hne : (stored store edit st.disk).1 ≠ .ok false) :
    resultOf ((lock.holding do
      onDisk a
      let _ ← reload store
      return edit.change).map some) st = followed store edit st (stored store edit st.disk) := by
  rw [resultOf_map, resultOf_holding_reload, ha]
  revert hne
  rcases stored store edit st.disk with ⟨result, disk⟩
  intro hne
  cases result with
  | error e => rfl
  | ok found =>
      cases found with
      | false => exact absurd rfl hne
      | true => exact map_afterReload store { st with disk } edit.change some

theorem resultOf_run (st : RegistryState) (h : ¬ edit.IsRefused) :
    resultOf (edit.run store) st = followed store edit st (stored store edit st.disk) := by
  cases edit with
  | save p =>
      have hname : ¬ Text.isBlankText p.name := h
      unfold run Registry.save
      dsimp only
      rw [if_neg hname]
      have hentries : ∀ r, (save p).entries? r ≠ none := by simp [entries?]
      exact map_followed (save p) (resultOf_put p st.disk) (stored_ne_false store hentries st.disk)
  | delete name =>
      unfold run Registry.delete
      rw [resultOf_holding, resultOf_bind, resultOf_onDisk, resultOf_remove]
      dsimp only [lock]
      rcases stored store (.delete name) st.disk with ⟨result, disk⟩
      cases result with
      | error e => rfl
      | ok found =>
          cases found with
          | false => rfl
          | true => exact resultOf_reload_held st disk (some ProfileChange.other)
  | saveGlobals globals =>
      have hentries : ∀ r, (saveGlobals globals).entries? r ≠ none := by simp [entries?]
      exact map_followed (saveGlobals globals) (resultOf_putGlobals globals st.disk)
        (stored_ne_false store hentries st.disk)

/-- An edit ends in one of these ways. -/
theorem ends_run (store : ProfileStore) (st : RegistryState) (edit : Edit) :
    Ends store st edit (resultOf (edit.run store) st) := by
  by_cases hrefused : edit.IsRefused
  · cases edit with
    | save p =>
        have hrun : resultOf ((Edit.save p).run store) st = (.error (.refused .blankProfile), st) := by
          have hname : Text.isBlankText p.name := hrefused
          unfold run Registry.save
          dsimp only
          rw [if_pos hname]
          rfl
        rw [hrun]
        exact .refused hrefused
    | delete name => exact hrefused.elim
    | saveGlobals globals => exact hrefused.elim
  · rw [resultOf_run st hrefused]
    unfold stored
    cases hload : (resultOf store.loadRoot st.disk).1 with
    | error e => exact .unread hload
    | ok r =>
        dsimp only
        cases hentries : edit.entries? r with
        | none => exact .absent hload hentries
        | some entries =>
            dsimp only
            rcases hwrite : resultOf (store.writeRoot entries) st.disk with ⟨result, disk⟩
            cases result with
            | error e => exact .unwritten hload hentries hwrite
            | ok => exact .written hrefused hload hentries hwrite

/-! ## All or nothing -/

/-- An edit comes to write these entries. -/
def Writes (store : ProfileStore) (st : RegistryState) (edit : Edit) (entries : Data.Fields) : Prop :=
  ¬ edit.IsRefused ∧ ∃ r disk, (resultOf store.loadRoot st.disk).1 = .ok r ∧
    edit.entries? r = some entries ∧ resultOf (store.writeRoot entries) st.disk = (.ok ⟨⟩, disk)

/-- A document has a root, and its records can be reloaded. -/
def CanReload (store : ProfileStore) (content : Bytes) : Prop :=
  ∃ r, store.rootOf content = .ok r ∧ r.contents.Bearable

/-- An edit is done as a whole, or nothing has happened. -/
inductive IsAtomic (store : ProfileStore) (st : RegistryState) (edit : Edit) :
    Except Failure (Option ProfileChange) × RegistryState → Prop
  /-- The document is written, and the snapshot serves it. -/
  | done {entries : Data.Fields} {r : Root} {st' : RegistryState} : Writes store st edit entries →
      store.document st'.disk = some (printed entries) → store.rootOf (printed entries) = .ok r →
        st'.snapshot.Serves r.contents → st'.snapshot.globals = r.globals →
          IsAtomic store st edit (.ok (some edit.change), st')
  /-- The profile to be removed is not there. -/
  | absent {name : String} {r : Root} {st' : RegistryState} : edit = .delete name →
      (resultOf store.loadRoot st.disk).1 = .ok r → Data.field name r.records = none →
        store.document st'.disk = store.document st.disk → st'.snapshot = st.snapshot →
          IsAtomic store st edit (.ok none, st')
  | failed {e : Failure} {st' : RegistryState} :
      store.document st'.disk = store.document st.disk → st'.snapshot = st.snapshot →
        IsAtomic store st edit (.error e, st')

theorem exists_delete_of_entries? {r : Root} (h : edit.entries? r = none) :
    ∃ name, edit = .delete name ∧ Data.field name r.records = none := by
  cases edit with
  | save p => simp [entries?] at h
  | delete name =>
      refine ⟨name, rfl, ?_⟩
      simpa [entries?] using h
  | saveGlobals globals => simp [entries?] at h

variable {entries : Data.Fields} {disk : Disk}

theorem Writes.unique {entries' : Data.Fields} (h : Writes store st edit entries)
    (h' : Writes store st edit entries') : entries = entries' := by
  obtain ⟨-, r, -, hload, hentries, -⟩ := h
  obtain ⟨-, r', -, hload', hentries', -⟩ := h'
  rw [hload] at hload'
  cases hload'
  rw [hentries] at hentries'
  exact Option.some.inj hentries'

section Reloading

variable {st₁ : RegistryState} (hdocument : store.document st₁.disk = some (printed entries))

include hdocument

/-- A document that can be reloaded is served after the edit. -/
theorem isAtomic_of_canReload (hwrites : Writes store st edit entries)
    (h : CanReload store (printed entries)) :
    IsAtomic store st edit (afterReload store st₁ (some edit.change)) := by
  obtain ⟨r, hroot, hbearable⟩ := h
  obtain ⟨result, snapshot, hreloads⟩ := exists_reloadsTo hdocument hroot hbearable
  unfold afterReload
  rw [hreloads.ends]
  exact .done hwrites hdocument hroot hreloads.serves hreloads.globals

/-- The reload of a document that cannot be reloaded changes nothing. -/
theorem state_of_not_canReload (h : ¬ CanReload store (printed entries)) :
    (resultOf (reload store) st₁).2 = st₁ := by
  cases hroot : store.rootOf (printed entries) with
  | ok r =>
      obtain ⟨e, he⟩ := exists_reload_eq_error hdocument hroot fun hbearable =>
        h ⟨r, hroot, hbearable⟩
      rw [he]
  | error e =>
      rw [resultOf_reload_of_document hdocument, hroot]
      rfl

theorem exists_error_of_not_canReload {r : Root} (hroot : store.rootOf (printed entries) = .ok r)
    (h : ¬ CanReload store (printed entries)) {α : Type} (a : α) :
    ∃ e, afterReload store st₁ a = (.error e, freed st₁) := by
  obtain ⟨e, he⟩ := exists_reload_eq_error hdocument hroot fun hbearable => h ⟨r, hroot, hbearable⟩
  unfold afterReload
  rw [he]
  exact ⟨e, rfl⟩

/-- An edit whose document cannot be reloaded is atomic only if it has written what was there. -/
theorem isAtomic_iff_of_not_canReload (hsnapshot : st₁.snapshot = st.snapshot)
    (hwrites : Writes store st edit entries) (h : ¬ CanReload store (printed entries)) :
    IsAtomic store st edit (afterReload store st₁ (some edit.change)) ↔
      store.document st.disk = some (printed entries) := by
  constructor
  · intro hatomic
    have hstate : (afterReload store st₁ (some edit.change)).2 = freed st₁ := by
      unfold afterReload
      rw [state_of_not_canReload hdocument h]
    revert hatomic hstate
    rcases hended : afterReload store st₁ (some edit.change) with ⟨result, st'⟩
    rintro hatomic rfl
    cases hatomic with
    | done hwrites' _ hroot _ _ =>
        rw [← hwrites.unique hwrites'] at hroot
        obtain ⟨e, he⟩ := exists_error_of_not_canReload hdocument hroot h (some edit.change)
        rw [hended] at he
        cases he
    | absent =>
        unfold afterReload at hended
        cases hreload : (resultOf (reload store) st₁).1 <;> rw [hreload] at hended <;> cases hended
    | failed hsame _ => exact hsame.symm.trans hdocument
  · intro hsame
    -- what was written is what was read before, so it has a root, and its reload breaks off
    obtain ⟨-, r, disk, hload, -, -⟩ := hwrites
    rw [resultOf_loadRoot_of_document hsame] at hload
    obtain ⟨e, he⟩ := exists_error_of_not_canReload hdocument hload h (some edit.change)
    rw [he]
    exact .failed (hdocument.trans hsame.symm) hsnapshot

end Reloading

/-- An edit that does not come to write is atomic. -/
theorem isAtomic_of_not_writes {ended : Except Failure (Option ProfileChange) × RegistryState}
    (htree : st.disk.IsTree) (hends : Ends store st edit ended)
    (h : ∀ entries, ¬ Writes store st edit entries) : IsAtomic store st edit ended := by
  cases hends with
  | refused => exact .failed rfl rfl
  | unread => exact .failed rfl rfl
  | absent hload hentries =>
      obtain ⟨name, hdelete, hnone⟩ := exists_delete_of_entries? hentries
      exact .absent hdelete hload hnone rfl rfl
  | unwritten _ _ hwrite => exact .failed (document_writeRoot_of_error htree hwrite) rfl
  | @written r entries disk hrefused hload hentries hwrite =>
      exact absurd ⟨hrefused, r, disk, hload, hentries, hwrite⟩ (h entries)

/-- An edit that comes to write is reloaded. -/
theorem eq_afterReload_of_writes (h : Writes store st edit entries) :
    ∃ st₁ : RegistryState, store.document st₁.disk = some (printed entries) ∧
      st₁.snapshot = st.snapshot ∧
      resultOf (edit.run store) st = afterReload store st₁ (some edit.change) := by
  obtain ⟨hrefused, r, disk, hload, hentries, hwrite⟩ := h
  refine ⟨{ st with disk }, document_writeRoot_of_ok hwrite, rfl, ?_⟩
  have hstored : stored store edit st.disk = (.ok true, disk) := by
    unfold stored
    rw [hload]
    dsimp only
    rw [hentries]
    dsimp only
    rw [hwrite]
    rfl
  rw [resultOf_run st hrefused, hstored]
  rfl

theorem Ends.locked_eq_false {ended : Except Failure (Option ProfileChange) × RegistryState}
    (h : Ends store st edit ended) (hfree : st.locked = false) : ended.2.locked = false := by
  cases h with
  | refused => exact hfree
  | unread | absent | unwritten | written => rfl

theorem Ends.isTree {ended : Except Failure (Option ProfileChange) × RegistryState}
    (h : Ends store st edit ended) (htree : st.disk.IsTree) : ended.2.disk.IsTree := by
  cases h with
  | refused | unread | absent => exact htree
  | unwritten _ _ hwrite => exact isTree_writeRoot htree hwrite
  | @written r entries disk _ _ _ hwrite =>
      show (resultOf (reload store) { st with disk }).2.disk.IsTree
      rw [disk_reload]
      exact isTree_writeRoot htree hwrite

/-- The registry after edits that were carried out one after another. -/
def afterAll (store : ProfileStore) (edits : List Edit) (st : RegistryState) : RegistryState :=
  edits.foldl (fun st edit => (resultOf (edit.run store) st).2) st

/-- Whatever becomes of edits, the lock is free behind them, and everything lies in folders. -/
theorem afterAll_keeps (store : ProfileStore) (edits : List Edit) (htree : st.disk.IsTree)
    (hfree : st.locked = false) :
    (afterAll store edits st).disk.IsTree ∧ (afterAll store edits st).locked = false := by
  induction edits generalizing st with
  | nil => exact ⟨htree, hfree⟩
  | cons edit edits ih =>
      have hends := ends_run store st edit
      exact ih (hends.isTree htree) (hends.locked_eq_false hfree)

/-- The lock is free after an edit, and everything lies in folders. An edit is atomic exactly if the
document that it writes can be reloaded or is the one that was there; otherwise the new document stays
with the old snapshot. -/
theorem isAtomic_run_iff (htree : st.disk.IsTree) (hfree : st.locked = false) :
    (resultOf (edit.run store) st).2.locked = false ∧
      (resultOf (edit.run store) st).2.disk.IsTree ∧
      (IsAtomic store st edit (resultOf (edit.run store) st) ↔
        ∀ entries, Writes store st edit entries → CanReload store (printed entries) ∨
          store.document st.disk = some (printed entries)) ∧
      (¬ IsAtomic store st edit (resultOf (edit.run store) st) →
        ∃ entries, Writes store st edit entries ∧
          store.document (resultOf (edit.run store) st).2.disk = some (printed entries) ∧
          (resultOf (edit.run store) st).2.snapshot = st.snapshot) := by
  have hends := ends_run store st edit
  refine ⟨hends.locked_eq_false hfree, hends.isTree htree, ?_⟩
  by_cases hnone : ∀ entries, ¬ Writes store st edit entries
  · have hatomic := isAtomic_of_not_writes htree hends hnone
    exact ⟨⟨fun _ entries hwrites => absurd hwrites (hnone entries), fun _ => hatomic⟩,
      fun h => absurd hatomic h⟩
  · simp only [not_forall, not_not] at hnone
    obtain ⟨entries, hwrites⟩ := hnone
    -- all that is left is the reload of the document that was written
    obtain ⟨st₁, hdocument, hsnapshot, hended⟩ := eq_afterReload_of_writes hwrites
    rw [hended]
    by_cases hreload : CanReload store (printed entries)
    · have hatomic := isAtomic_of_canReload hdocument hwrites hreload
      refine ⟨⟨fun _ entries' hwrites' => .inl ?_, fun _ => hatomic⟩, fun h => absurd hatomic h⟩
      rwa [← hwrites.unique hwrites']
    · have hiff := isAtomic_iff_of_not_canReload hdocument hsnapshot hwrites hreload
      refine ⟨hiff.trans ⟨fun hsame entries' hwrites' => .inr ?_, fun h => ?_⟩, fun _ => ?_⟩
      · rwa [← hwrites.unique hwrites']
      · exact (h entries hwrites).resolve_left hreload
      · refine ⟨entries, hwrites, ?_, ?_⟩ <;> unfold afterReload <;>
          rw [state_of_not_canReload hdocument hreload]
        · exact hdocument
        · exact hsnapshot

/-- A document with one profile. -/
def oneProfile : Bytes := bytesOf
  "profiles:
  base:
    description: root
"

/-- A profile that extends the one in the document. -/
def late : Profile := { name := "late", parent := some "base", rules := [{ pattern := "R2" }] }

/-- The profile is in the document and in the snapshot after it was saved. -/
theorem isAtomic_run_of_late :
    (unread oneProfile).disk.IsTree ∧ (unread oneProfile).locked = false ∧
      IsAtomic kept (unread oneProfile) (.save late)
        (resultOf ((save late).run kept) (unread oneProfile)) ∧
      (resultOf ((save late).run kept) (unread oneProfile)).2.snapshot.profiles.get? "late" =
        some late := by
  -- an edit that is not atomic would have left the empty snapshot
  have hserved : (resultOf ((save late).run kept) (unread oneProfile)).2.snapshot.profiles.get?
      "late" = some late := by
    decide +kernel
  refine ⟨isTree_unread oneProfile, rfl, ?_, hserved⟩
  by_contra hnot
  obtain ⟨-, -, -, hafter⟩ :=
    isAtomic_run_iff (isTree_unread oneProfile) (rfl : (unread _).locked = false)
  obtain ⟨_, _, _, hsnapshot⟩ := hafter hnot
  rw [hsnapshot] at hserved
  cases hserved

/-- A profile with a pattern that repeats more often than can be counted. -/
def greedy : Profile := { name := "greedy", rules := [{ pattern := "x\x7b99999999999\x7d" }] }

/-- The reload breaks off at the pattern after the profile was written. -/
theorem not_isAtomic_run_of_greedy :
    (unread oneProfile).disk.IsTree ∧ (unread oneProfile).locked = false ∧
      ¬ IsAtomic kept (unread oneProfile) (.save greedy)
        (resultOf ((save greedy).run kept) (unread oneProfile)) := by
  refine ⟨isTree_unread oneProfile, rfl, ?_⟩
  have hended : (resultOf ((save greedy).run kept) (unread oneProfile)).1.toOption.isNone ∧
      kept.document (resultOf ((save greedy).run kept) (unread oneProfile)).2.disk ≠
        kept.document (unread oneProfile).disk := by
    decide +kernel
  revert hended
  rcases resultOf ((save greedy).run kept) (unread oneProfile) with ⟨result, st'⟩
  rintro ⟨hfails, hwritten⟩ hatomic
  cases hatomic with
  | done => cases hfails
  | absent => cases hfails
  | failed hsame => exact hwritten hsame

end Edit

end Conformity.Registry
