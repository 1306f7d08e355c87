import Conformity.Proofs.Profile.Editors
import Conformity.RuleSet.Service

/-!
# Files for audits

Rule-sets leave files for audits behind when they are compiled, and clear away those of earlier
reloads. Nothing of this touches a profiles document that does not lie among these files
(`RuleSets.spares_compile`, `RuleSets.spares_writeAudit`).
-/

namespace Conformity

namespace ProfileStore

variable {s : ProfileStore} {disk disk' disk'' : Disk} {σ α β : Type}

/-- The document does not lie in a folder for audits. -/
def IsApart (s : ProfileStore) (folder : String) : Prop :=
  ∀ place audits, s.storage.place s.path = .ok place →
    s.storage.place (s.storage.generatedFolder ++ "/" ++ folder) = .ok audits → ¬ audits <+: place

theorem Unchanged.refl (s : ProfileStore) (disk : Disk) : s.Unchanged disk disk := ⟨rfl, id⟩

theorem Unchanged.trans (h : s.Unchanged disk disk') (h' : s.Unchanged disk' disk'') :
    s.Unchanged disk disk'' :=
  ⟨h'.document.trans h.document, h'.tree ∘ h.tree⟩

/-- Where the document could lie, nothing has changed. -/
theorem Unchanged.of_content? (tree : disk.IsTree → disk'.IsTree)
    (h : ∀ place, s.storage.place s.path = .ok place → disk'.content? place = disk.content? place) :
    s.Unchanged disk disk' := by
  refine ⟨?_, tree⟩
  unfold ProfileStore.document
  split
  · next place hplace => exact h place hplace
  · rfl

/-- Whatever becomes of work, the document is what it was. -/
def Spares (s : ProfileStore) (disk : σ → Disk) (x : ExceptT Failure (StateM σ) α) : Prop :=
  ∀ st, (disk st).IsTree → s.Unchanged (disk st) (disk (resultOf x st).2)

namespace Spares

variable {disk : σ → Disk}

theorem of_keeps {slot : Slot σ Disk} {x : ExceptT Failure (StateM σ) α} (h : Keeps slot x) :
    s.Spares slot.get x := by
  intro st _
  rw [h st]
  exact .refl s _

theorem pure (a : α) : s.Spares disk (Pure.pure a : ExceptT Failure (StateM σ) α) :=
  fun _ _ => .refl s _

theorem throw (e : Failure) : s.Spares disk (MonadExcept.throw e : ExceptT Failure (StateM σ) α) :=
  fun _ _ => .refl s _

/-- The second part of work begins where the first part has ended. -/
theorem bind_of_ok {x : ExceptT Failure (StateM σ) α} {f : α → ExceptT Failure (StateM σ) β}
    (hx : s.Spares disk x)
    (hf : ∀ {a st st₁}, resultOf x st = (.ok a, st₁) → (disk st₁).IsTree →
      s.Unchanged (disk st₁) (disk (resultOf (f a) st₁).2)) : s.Spares disk (x >>= f) := by
  intro st htree
  have hfirst := hx st htree
  rw [resultOf_bind]
  rcases heq : resultOf x st with ⟨r, st₁⟩
  rw [heq] at hfirst
  cases r with
  | ok a => exact hfirst.trans (hf heq (hfirst.tree htree))
  | error e => exact hfirst

theorem bind {x : ExceptT Failure (StateM σ) α} {f : α → ExceptT Failure (StateM σ) β}
    (hx : s.Spares disk x) (hf : ∀ a, s.Spares disk (f a)) : s.Spares disk (x >>= f) :=
  hx.bind_of_ok fun {a _ st₁} _ htree => hf a st₁ htree

theorem map {x : ExceptT Failure (StateM σ) α} {f : α → β} (hx : s.Spares disk x) :
    s.Spares disk (x.map f) :=
  hx.bind fun _ => pure _

theorem tryCatch {x : ExceptT Failure (StateM σ) α} {f : Failure → ExceptT Failure (StateM σ) α}
    (hx : s.Spares disk x) (hf : ∀ e, s.Spares disk (f e)) :
    s.Spares disk (MonadExcept.tryCatch x f) := by
  intro st htree
  have hfirst := hx st htree
  rw [resultOf_tryCatch]
  rcases heq : resultOf x st with ⟨r, st₁⟩
  rw [heq] at hfirst
  cases r with
  | ok a => exact hfirst
  | error e => exact hfirst.trans (hf e st₁ (hfirst.tree htree))

/-- What spares the document on the disk, spares it where the disk lies in a state. -/
theorem lift {slot : Slot σ Disk} (hput : ∀ d st, slot.get (slot.put d st) = d)
    {x : Disk.Action α} (h : s.Spares id x) : s.Spares slot.get (slot.lift x) := by
  intro st htree
  show s.Unchanged _ (slot.get (slot.put (resultOf x (slot.get st)).2 st))
  rw [hput]
  exact h _ htree

end Spares

/-! ## The disk -/

variable {folder : String}

theorem spares_makeFolder (place : Path.Place) : s.Spares id (Disk.makeFolder place) := by
  intro disk htree
  obtain ⟨hgrows, -⟩ :=
    Disk.makeFolder_spec (Prod.mk.eta (p := resultOf (Disk.makeFolder place) disk)).symm
  exact .of_content? hgrows.tree fun place _ => hgrows.content?_eq htree

theorem content?_put_of_not_prefix {p q : Path.Place} (hp : p ≠ []) (h : ¬ p <+: q)
    (n : FileNode) : (disk.put p n).content? q = disk.content? q := by
  refine Disk.content?_congr fun around haround => ?_
  rw [Disk.node?_put hp, if_neg]
  rintro rfl
  exact h haround

theorem content?_remove_of_not_prefix {p q : Path.Place} (h : ¬ p <+: q) :
    (disk.remove p).content? q = disk.content? q := by
  refine Disk.content?_congr fun around haround => ?_
  by_cases hnil : around = []
  · rw [hnil]
    rfl
  · rw [Disk.node?_remove hnil, if_neg]
    exact fun hwithin => h ((List.isPrefixOf_iff_prefix.mp hwithin).trans haround)

theorem spares_generatedPlace_bind {f : Path.Place → Disk.Action α} (apart : s.IsApart folder)
    (hf : ∀ audits, (∀ place, s.storage.place s.path = .ok place → ¬ audits <+: place) →
      s.Spares id (f audits)) : s.Spares id (s.storage.generatedPlace folder >>= f) := by
  unfold Storage.generatedPlace Storage.placeOf
  split
  · next audits haudits => exact hf audits fun place hplace => apart place audits hplace haudits
  · exact .throw _

/-- A file for audits is written into a folder that is there. -/
theorem spares_writeGenerated (apart : s.IsApart folder) (name : String) (content : Bytes) :
    s.Spares id (s.storage.writeGenerated folder name content) := by
  refine spares_generatedPlace_bind apart fun audits hapart => ?_
  refine (spares_makeFolder audits).bind_of_ok fun {_ disk disk₁} hmade htree => ?_
  have hfolder : disk₁.find audits = .ok .folder := (Disk.makeFolder_spec hmade).2 rfl
  split
  · exact .refl s _
  · split
    · exact .refl s _
    · next last _ =>
      split
      · exact .refl s _
      · rw [resultOf_bind]
        rcases Disk.writeFile_cases disk₁ (audits ++ [last]) content with
          ⟨htakes, hwrite⟩ | ⟨e, hwrite⟩
        · rw [hwrite]
          refine .of_content? (fun _ => htree.put_file hfolder htakes content)
            fun place hplace => ?_
          refine content?_put_of_not_prefix (by simp) (fun hprefix => hapart place hplace ?_) _
          exact (List.prefix_append audits [last]).trans hprefix
        · rw [hwrite]
          exact .refl s _

theorem spares_clearGenerated (apart : s.IsApart folder) :
    s.Spares id (s.storage.clearGenerated folder) := by
  refine spares_generatedPlace_bind apart fun audits hapart => ?_
  refine .bind (.of_keeps (keeps_look audits)) fun node => ?_
  split
  · exact .pure _
  · exact .throw _
  · intro disk htree
    exact .of_content? (fun _ => htree.remove) fun place hplace =>
      content?_remove_of_not_prefix (hapart place hplace)

end ProfileStore

/-! ## Rule-sets -/

namespace RuleSets

open ProfileStore (Spares)

variable {s : RuleSets} {store : ProfileStore} {t : RuleSetType}

/-- The document does not lie among the files for audits of rule-sets. -/
structure AreApart (s : RuleSets) (store : ProfileStore) : Prop where
  storage : store.storage = s.storage
  generated : store.IsApart generatedFolder
  custom : store.IsApart customFolder

theorem spares_onDisk {α : Type} {a : Disk.Action α} (h : store.Spares id a) :
    store.Spares RuleSetState.disk (onDisk a) := by
  have hput : ∀ d st, disk.get (disk.put d st) = d := fun _ _ => rfl
  exact Spares.lift hput h

theorem spares_of_keeps {α : Type} {a : Disk.Action α} (h : Keeps Slot.whole a) :
    store.Spares RuleSetState.disk (onDisk a) :=
  spares_onDisk (.of_keeps h)

theorem spares_withEngine {α : Type} {a : Artifact.Work α} :
    store.Spares RuleSetState.disk (withEngine a) :=
  fun _ _ => .refl store _

theorem spares_setting : store.Spares RuleSetState.disk (s.setting t) := by
  unfold setting
  split
  · exact .pure _
  · exact .throw _

theorem keeps_locate (storage : Storage) (path : String) :
    Keeps Slot.whole (storage.locate path) := by
  unfold Storage.locate
  refine (ProfileStore.keeps_placeOf storage path).bind fun place => ?_
  refine ((ProfileStore.keeps_look place).bind fun node => .pure _).bind fun held => ?_
  split
  · exact .pure _
  · exact .throw _

theorem spares_source : store.Spares RuleSetState.disk (s.source t) := by
  unfold source
  refine .bind spares_setting fun c => ?_
  refine .bind (spares_of_keeps (ProfileStore.keeps_isAsset _ _)) fun found => ?_
  split
  · exact .throw _
  · exact .bind (spares_of_keeps (keeps_locate _ _)) fun place =>
      .bind (spares_of_keeps (ProfileStore.keeps_read _ _)) fun content => .pure _

theorem spares_inject {source : RuleSource} {as : List Assertion} {profile : String} :
    store.Spares RuleSetState.disk (s.inject source as profile) := by
  unfold inject
  split
  · exact .pure _
  · exact .throw _
  · exact .throw _

section Apart

variable (apart : s.AreApart store)
include apart

theorem spares_writeAudit {folder : String} (hfolder : store.IsApart folder) (name : String)
    (content : Bytes) : store.Spares RuleSetState.disk (s.writeAudit folder name content) := by
  have hwrite := ProfileStore.spares_writeGenerated hfolder name content
  rw [apart.storage] at hwrite
  refine .tryCatch (.bind (spares_onDisk hwrite) fun _ => .pure _) fun e => ?_
  split
  · exact .pure _
  · exact .throw _

theorem spares_clear {folder : String} (hfolder : store.IsApart folder) :
    store.Spares RuleSetState.disk (onDisk (s.storage.clearGenerated folder)) := by
  have hclear := ProfileStore.spares_clearGenerated hfolder
  rw [apart.storage] at hclear
  exact spares_onDisk hclear

/-- A rule-set is compiled. -/
theorem spares_compile : store.Spares RuleSetState.disk (s.compile t) := by
  unfold compile
  refine .bind spares_setting fun c => .bind spares_source fun source => ?_
  split
  · exact spares_withEngine
  · dsimp only
    split
    · exact spares_withEngine
    · exact .bind spares_inject fun injected => .bind spares_withEngine fun a =>
        .bind (.bind (spares_writeAudit apart apart.custom _ _) fun _ =>
          spares_writeAudit apart apart.custom _ _) fun _ => .pure a

end Apart

end RuleSets

end Conformity
