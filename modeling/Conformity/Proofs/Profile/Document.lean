import Conformity.Profile.Registry
import Conformity.Proofs.Storage.Disk

/-!
# The document on the disk

What is read from the profiles document and what becomes of a reload follow from the content of the
document alone (`ProfileStore.resultOf_load_of_document`, `Registry.resultOf_reload_of_document`).
Reading leaves the disk as it is; a write puts its content in place of the document, or fails and
leaves the document as it was.
-/

namespace Conformity

namespace ProfileStore

variable {s : ProfileStore} {disk disk' : Disk} {content : Bytes} {entries : Data.Fields}

/-- The content of the document, if it is there. -/
def document (s : ProfileStore) (disk : Disk) : Option Bytes :=
  match s.storage.place s.path with
  | .ok place => disk.content? place
  | .error _ => none

theorem find_of_document (h : s.document disk = some content) :
    ∃ place, s.storage.place s.path = .ok place ∧ disk.find place = .ok (.file content) := by
  unfold document at h
  split at h
  · next place hplace =>
    rw [Disk.content?_eq_some_iff, ← Disk.find_eq_ok_iff] at h
    exact ⟨place, hplace, h⟩
  · cases h

/-! ## Reading -/

theorem resultOf_isAsset_of_document (h : s.document disk = some content) :
    resultOf (s.storage.isAsset s.path) disk = (.ok true, disk) := by
  obtain ⟨place, hplace, hfind⟩ := find_of_document h
  unfold Storage.isAsset Disk.isFile
  rw [hplace]
  dsimp only
  rw [resultOf_bind, Disk.resultOf_look_of_ok hfind]
  rfl

theorem resultOf_read_of_document (h : s.document disk = some content) :
    resultOf (s.storage.read s.path) disk = (.ok content, disk) := by
  obtain ⟨place, hplace, hfind⟩ := find_of_document h
  exact Storage.resultOf_read_of_find hplace hfind

theorem resultOf_loadRoot_of_document (h : s.document disk = some content) :
    resultOf s.loadRoot disk = (s.rootOf content, disk) := by
  unfold loadRoot
  rw [resultOf_bind, resultOf_isAsset_of_document h]
  dsimp only
  rw [if_neg (by simp), resultOf_bind, resultOf_read_of_document h]
  dsimp only
  cases s.rootOf content <;> rfl

theorem keeps_look (place : Path.Place) : Keeps Slot.whole (Disk.look place) := by
  unfold Disk.look
  refine Keeps.get.bind fun disk => ?_
  split
  · exact .pure _
  · exact .pure _
  · exact .pure _
  · exact .throw _

theorem keeps_placeOf (storage : Storage) (path : String) :
    Keeps Slot.whole (storage.placeOf path) := by
  unfold Storage.placeOf
  split
  · exact .pure _
  · exact .throw _

theorem keeps_isAsset (storage : Storage) (path : String) :
    Keeps Slot.whole (storage.isAsset path) := by
  unfold Storage.isAsset
  split
  · refine (keeps_look _).bind fun node => ?_
    split <;> exact .pure _
  · exact .pure _

theorem keeps_read (storage : Storage) (path : String) : Keeps Slot.whole (storage.read path) := by
  unfold Storage.read
  refine (keeps_placeOf storage path).bind fun place => (keeps_look place).bind fun node => ?_
  split
  · exact .pure _
  · exact .throw _

/-- Reading the document leaves the disk as it is. -/
theorem keeps_loadRoot (s : ProfileStore) : Keeps Slot.whole s.loadRoot := by
  unfold loadRoot
  refine (keeps_isAsset _ _).bind fun asset => ?_
  split
  · exact .pure _
  · refine (keeps_read _ _).bind fun content => ?_
    split
    · exact .pure _
    · exact .throw _

theorem keeps_load (s : ProfileStore) : Keeps Slot.whole s.load := by
  unfold load
  refine (keeps_loadRoot s).bind fun root => ?_
  split
  · exact .pure _
  · exact .throw _

theorem resultOf_load_of_document (h : s.document disk = some content) :
    resultOf s.load disk = (s.rootOf content >>= readRoot, disk) := by
  unfold load
  rw [resultOf_bind, resultOf_loadRoot_of_document h]
  cases s.rootOf content with
  | error e => rfl
  | ok r =>
    show resultOf _ disk = (readRoot r, disk)
    cases readRoot r <;> rfl

/-! ## Writing -/

theorem document_writeRoot_of_ok (h : resultOf (s.writeRoot entries) disk = (.ok ⟨⟩, disk')) :
    s.document disk' = some (Text.encode (Yaml.print (.map 0 entries))) := by
  unfold document
  cases hplace : s.storage.place s.path with
  | ok place => exact Storage.content?_write_of_ok hplace h
  | error e =>
    unfold writeRoot Storage.write Storage.placeOf at h
    rw [hplace] at h
    cases h

theorem document_writeRoot_of_error {e : Failure} (htree : disk.IsTree)
    (h : resultOf (s.writeRoot entries) disk = (.error e, disk')) :
    s.document disk' = s.document disk := by
  unfold document
  cases hplace : s.storage.place s.path with
  | ok place => exact Storage.content?_write_of_error htree hplace h
  | error e => rfl

theorem isTree_writeRoot {result : Except Failure PUnit} (htree : disk.IsTree)
    (h : resultOf (s.writeRoot entries) disk = (result, disk')) : disk'.IsTree := by
  obtain rfl : (resultOf (s.writeRoot entries) disk).2 = disk' := congrArg Prod.snd h
  cases hplace : s.storage.place s.path with
  | ok place => exact Storage.isTree_write htree hplace _
  | error e =>
    unfold writeRoot Storage.write Storage.placeOf
    rw [hplace]
    exact htree

end ProfileStore

namespace Registry

variable {store : ProfileStore} {st : RegistryState} {content : Bytes}

/-- What becomes of a reload of a document. -/
def reloaded (document : Except Failure ProfilesDocument) (st : RegistryState) :
    Except Failure ReloadResult × RegistryState :=
  match document with
  | .error e => (if e.isOwn || e.isSystem then .ok (.failure component e.message) else .error e, st)
  | .ok d =>
    match Snapshot.ofDocument d with
    | .error l => (.error (.ofLimit l), st)
    | .ok (snapshot, faults) =>
      (.ok (.ofCount component snapshot.profiles.length 0 faults), { st with snapshot })

theorem resultOf_onDisk {α : Type} (a : Disk.Action α) (st : RegistryState) :
    resultOf (onDisk a) st = ((resultOf a st.disk).1, { st with disk := (resultOf a st.disk).2 }) := rfl

theorem resultOf_onDisk_load (store : ProfileStore) (st : RegistryState) :
    resultOf (onDisk store.load) st = ((resultOf store.load st.disk).1, st) := by
  rw [resultOf_onDisk]
  exact Prod.ext rfl (congrArg (fun d => { st with disk := d }) (ProfileStore.keeps_load store st.disk))

theorem resultOf_reload (store : ProfileStore) (st : RegistryState) :
    resultOf (reload store) st = reloaded (resultOf store.load st.disk).1 st := by
  unfold reload
  rw [resultOf_bind, resultOf_tryCatch, resultOf_map, resultOf_onDisk_load]
  cases (resultOf store.load st.disk).1 with
  | ok d =>
      dsimp only [Except.map, reloaded]
      cases Snapshot.ofDocument d <;> rfl
  | error e =>
      unfold reloaded
      cases h : e.isOwn || e.isSystem <;> simp [Except.map, h]

/-- A reload does not touch the disk. -/
theorem disk_reload (store : ProfileStore) (st : RegistryState) :
    (resultOf (reload store) st).2.disk = st.disk := by
  rw [resultOf_reload]
  cases (resultOf store.load st.disk).1 with
  | error e => rfl
  | ok d =>
      unfold reloaded
      dsimp only
      cases Snapshot.ofDocument d <;> rfl

theorem resultOf_reload_of_document (h : store.document st.disk = some content) :
    resultOf (reload store) st = reloaded (store.rootOf content >>= ProfileStore.readRoot) st := by
  rw [resultOf_reload, ProfileStore.resultOf_load_of_document h]

/-- A store below a root folder. -/
def kept : ProfileStore := { storage := { root := ["srv"] } }

/-- A registry that has served nothing yet, with a profiles document. -/
def unread (content : Bytes) : RegistryState :=
  { disk := ⟨[(["srv"], .folder), (["srv", "validation-profiles.yml"], .file content)]⟩ }

theorem document_unread (content : Bytes) : kept.document (unread content).disk = some content := rfl

theorem isTree_unread (content : Bytes) : (unread content).disk.IsTree := by
  intro e he k hk
  rcases List.mem_cons.mp he with rfl | he
  · obtain rfl : k = 0 := by simpa using hk
    rfl
  · obtain rfl := List.mem_singleton.mp he
    obtain rfl | rfl : k = 0 ∨ k = 1 := by
      simp only [List.length_cons, List.length_nil] at hk
      omega
    · rfl
    · rfl

end Registry

end Conformity
