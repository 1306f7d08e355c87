import Conformity.Proofs.Workspace.Trees

/-!
# Renewal of files for audits

A reload of the rule-sets clears both of its folders for audits before it compiles anything. So every
file that lies there afterwards was written by the reload itself: had the folders been empty when it
began, it would have come to the same. A reload of the schemas neither clears nor writes anything, so that
the files in the folder of schemas with overrides are those of earlier calls
(`Workspace.reload_renews_iff`).
-/

namespace Conformity

open Conformity.Path (Place)

namespace Disk

variable {d d' : Disk} {p q place folder : Place} {names : List String}

/-! ## Disks with less on them -/

/-- Some of what is on a disk remains, and nothing else is there. -/
def Remains (d' d : Disk) : Prop := ∀ q, d'.node? q = d.node? q ∨ d'.node? q = none

theorem remains_remove (d : Disk) (p : Place) : Remains (d.remove p) d := by
  intro q
  by_cases hq : q = []
  · rw [hq]
    exact .inl rfl
  · rw [node?_remove hq]
    split
    · exact .inr rfl
    · exact .inl rfl

theorem Remains.trans {d'' : Disk} (h : Remains d'' d') (h' : Remains d' d) : Remains d'' d := by
  intro q
  rcases h q with heq | hnone
  · rw [heq]
    exact h' q
  · exact .inr hnone

/-- A walk ends as before, or finds nothing. -/
theorem Remains.seek (h : Remains d' d) (folder : Place) (names : List String) :
    d'.seek folder names = d.seek folder names ∨ d'.seek folder names = .error .notFound := by
  induction names generalizing folder with
  | nil => exact .inl rfl
  | cons name names ih =>
      unfold Disk.seek
      split
      · exact .inl rfl
      · rcases h (folder ++ [name]) with heq | hnone
        · rw [heq]
          split
          · exact .inl rfl
          · exact ih _
          · exact .inl rfl
        · rw [hnone]
          exact .inr rfl

theorem remove_comm (d : Disk) (p q : Place) : (d.remove p).remove q = (d.remove q).remove p := by
  unfold remove
  rw [List.filter_filter, List.filter_filter]
  simp only [Bool.and_comm]

theorem remove_remove (d : Disk) (p : Place) : (d.remove p).remove p = d.remove p := by
  unfold remove
  rw [List.filter_filter]
  simp only [Bool.and_self]

/-- Nothing is found at or below a place that is removed. -/
theorem content?_remove_below (h : p <+: q) : (d.remove p).content? q = none := by
  refine Option.eq_none_iff_forall_ne_some.mpr fun content hcontent => ?_
  obtain ⟨-, hnode⟩ := content?_eq_some_iff.mp hcontent
  by_cases hq : q = []
  · rw [hq] at hnode
    cases hnode
  · have hwithin : Path.isWithin p q := List.isPrefixOf_iff_prefix.mpr h
    rw [node?_remove hq, if_pos hwithin] at hnode
    cases hnode

/-! ## Clearing -/

/-- A place that can be cleared: there is a folder, or nothing. -/
def IsClearable (d : Disk) (p : Place) : Prop :=
  d.find p = .ok .folder ∨ d.find p = .error .notFound ∨ d.find p = .error .notFolder

theorem IsClearable.of_remains (h : d.IsClearable p) (hremains : Remains d' d) : d'.IsClearable p := by
  have hseek : d'.find p = d.find p ∨ d'.find p = .error .notFound := hremains.seek [] p
  rcases hseek with heq | hnone
  · unfold IsClearable
    rwa [heq]
  · exact .inr (.inl hnone)

/-- A walk that ends before a place has met nothing, or something that is no folder. -/
theorem exists_of_seek_error {e : SystemFault} (h : d.seek folder names = .error e)
    (he : e ≠ .nameTooLong) : ∃ q, q <+: folder ++ names ∧
      (d.node? q = none ∨ q ≠ folder ++ names ∧ d.node? q ≠ some .folder) := by
  induction names generalizing folder with
  | nil => cases h
  | cons name names ih =>
      have hstep : folder ++ [name] <+: folder ++ name :: names := ⟨names, by simp⟩
      unfold Disk.seek at h
      split at h
      · cases h
        exact absurd rfl he
      · split at h
        · next hnone => exact ⟨_, hstep, .inl hnone⟩
        · rw [List.append_cons]
          exact ih h
        · next content hfile =>
          split at h
          · cases h
          · next hnames =>
            refine ⟨_, hstep, .inr ⟨fun heq => hnames ?_, by rw [hfile]; simp⟩⟩
            rw [List.append_cons] at heq
            simpa using heq

/-- Where nothing stands, a tree has nothing to remove. -/
theorem IsTree.remove_eq_self (htree : d.IsTree) {e : SystemFault} (h : d.find p = .error e)
    (he : e ≠ .nameTooLong) : d.remove p = d := by
  obtain ⟨q, hq, hbroken⟩ := exists_of_seek_error h he
  rw [List.nil_append] at hq hbroken
  have hall : ∀ entry ∈ d.nodes, (!Path.isWithin p entry.1) = true := by
    rintro ⟨place, node⟩ hentry
    rw [Bool.not_eq_true', Bool.eq_false_iff]
    intro hwithin
    have hp : p <+: place := List.isPrefixOf_iff_prefix.mp hwithin
    -- what lies below the place has all folders around it, and `q` is one of them
    obtain ⟨node', hnode⟩ : ∃ node', d.node? place = some node' := by
      refine Option.ne_none_iff_exists'.mp fun hnone => ?_
      have hne : place ≠ [] := by
        rintro rfl
        cases hnone
      rw [node?_of_ne_nil hne, List.lookup_eq_none_iff] at hnone
      simpa using hnone _ hentry
    by_cases heq : q = place
    · obtain rfl : p = place := hp.eq_of_length_le (heq ▸ hq.length_le)
      rcases hbroken with hnone | ⟨hne, -⟩
      · rw [heq, hnode] at hnone
        cases hnone
      · exact hne heq
    · have hfolder := htree.node?_around hnode (hq.trans hp) heq
      rcases hbroken with hnone | ⟨-, hne⟩
      · rw [hfolder] at hnone
        cases hnone
      · exact hne hfolder
  unfold Disk.remove
  rw [List.filter_eq_self.mpr hall]

end Disk

namespace Storage

open Disk (IsClearable Remains)

variable {s : Storage} {d d' : Disk} {folder : String} {audits : Place}

theorem clearGenerated_of_isClearable (htree : d.IsTree)
    (hplace : s.place (s.generatedFolder ++ "/" ++ folder) = .ok audits) (h : d.IsClearable audits) :
    resultOf (s.clearGenerated folder) d = (.ok ⟨⟩, d.remove audits) := by
  unfold clearGenerated generatedPlace placeOf
  rw [hplace]
  show resultOf (Disk.look audits >>= _) d = _
  rw [resultOf_bind]
  rcases h with h | h | h
  · rw [Disk.resultOf_look_of_ok h]
    rfl
  all_goals
    have hlook : resultOf (Disk.look audits) d = (.ok none, d) := by
      unfold Disk.look
      rw [resultOf_bind, resultOf_get]
      dsimp only
      rw [h]
      rfl
    rw [hlook, htree.remove_eq_self h (by simp)]
    rfl

/-- What can be cleared has a place. -/
theorem isClearable_of_ok (h : resultOf (s.clearGenerated folder) d = (.ok ⟨⟩, d')) :
    ∃ audits, s.place (s.generatedFolder ++ "/" ++ folder) = .ok audits ∧ d.IsClearable audits := by
  obtain ⟨audits, hplace⟩ := exists_place_of_clearGenerated (congrArg Prod.fst h)
  refine ⟨audits, hplace, ?_⟩
  unfold clearGenerated generatedPlace placeOf at h
  rw [hplace] at h
  have hclear : resultOf (Disk.look audits >>= _) d = _ := h
  unfold Disk.look at hclear
  unfold IsClearable
  rw [resultOf_bind, resultOf_bind, resultOf_get] at hclear
  dsimp only at hclear
  revert hclear
  rcases d.find audits with e | node
  · cases e <;> simp
  · cases node <;> simp

/-! ## Folders for audits -/

/-- A place lies in a folder for audits. -/
def IsIn (s : Storage) (folder : String) (q : Place) : Prop :=
  ∃ audits, s.place (s.generatedFolder ++ "/" ++ folder) = .ok audits ∧ audits <+: q

/-- A disk without a folder for audits. -/
def without (s : Storage) (folder : String) (d : Disk) : Disk :=
  match s.place (s.generatedFolder ++ "/" ++ folder) with
  | .ok audits => d.remove audits
  | .error _ => d

/-- A disk without some folders for audits. -/
def emptied (s : Storage) (folders : List String) (d : Disk) : Disk :=
  folders.foldl (fun d folder => s.without folder d) d

theorem without_of_place (hplace : s.place (s.generatedFolder ++ "/" ++ folder) = .ok audits) :
    s.without folder d = d.remove audits := by
  unfold without
  rw [hplace]

end Storage

/-! ## Rule-sets -/

namespace RuleSets

variable {s : RuleSets} {st st' : RuleSetState} {result : ReloadResult} {audits customs : Place}

/-- What a reload does once the folders for audits are cleared. -/
theorem resultOf_reload_of_isClearable (htree : st.disk.IsTree)
    (haudits : s.storage.place (s.storage.generatedFolder ++ "/" ++ generatedFolder) = .ok audits)
    (hcustoms : s.storage.place (s.storage.generatedFolder ++ "/" ++ customFolder) = .ok customs)
    (h : st.disk.IsClearable audits) (h' : (st.disk.remove audits).IsClearable customs) :
    resultOf s.reload st = resultOf (do
      modify (cache.change ComputeCache.invalidateAll)
      let (loaded, errors) ← s.compileEach s.configured
      modify fun st => { st with loaded }
      return .ofCount component loaded.length 0 errors : Work ReloadResult)
        { st with disk := (st.disk.remove audits).remove customs } := by
  have hfirst := Storage.clearGenerated_of_isClearable htree haudits h
  have hsecond := Storage.clearGenerated_of_isClearable htree.remove hcustoms h'
  unfold reload
  rw [resultOf_bind, resultOf_onDisk, hfirst]
  dsimp only
  rw [resultOf_bind, resultOf_onDisk, hsecond]

/-- What a reload that returns has cleared. -/
theorem exists_isClearable_of_reload (htree : st.disk.IsTree)
    (h : resultOf s.reload st = (.ok result, st')) : ∃ audits customs,
      s.storage.place (s.storage.generatedFolder ++ "/" ++ generatedFolder) = .ok audits ∧
      s.storage.place (s.storage.generatedFolder ++ "/" ++ customFolder) = .ok customs ∧
      st.disk.IsClearable audits ∧ (st.disk.remove audits).IsClearable customs := by
  unfold reload at h
  obtain ⟨_, st₁, hfirst, hreload⟩ := resultOf_bind_eq_ok h
  obtain ⟨_, st₂, hsecond, -⟩ := resultOf_bind_eq_ok hreload
  rw [resultOf_onDisk] at hfirst
  obtain ⟨audits, haudits, hclear⟩ := Storage.isClearable_of_ok
    (resultOf_eq (congrArg Prod.fst hfirst))
  rw [Storage.clearGenerated_of_isClearable htree haudits hclear] at hfirst
  cases hfirst
  rw [resultOf_onDisk] at hsecond
  obtain ⟨customs, hcustoms, hclear'⟩ := Storage.isClearable_of_ok
    (resultOf_eq (congrArg Prod.fst hsecond))
  exact ⟨audits, customs, haudits, hcustoms, hclear, hclear'⟩

/-- Had the folders for audits been empty, a reload would have come to the same. -/
theorem reload_of_emptied (htree : st.disk.IsTree) (h : resultOf s.reload st = (.ok result, st')) :
    resultOf s.reload
      { st with disk := s.storage.emptied [generatedFolder, customFolder] st.disk } =
        (.ok result, st') := by
  obtain ⟨audits, customs, haudits, hcustoms, hclear, hclear'⟩ := exists_isClearable_of_reload htree h
  have hemptied : s.storage.emptied [generatedFolder, customFolder] st.disk =
      (st.disk.remove audits).remove customs := by
    show s.storage.without customFolder (s.storage.without generatedFolder st.disk) = _
    rw [Storage.without_of_place haudits, Storage.without_of_place hcustoms]
  have hless : ((st.disk.remove audits).remove customs).IsClearable audits :=
    hclear.of_remains ((Disk.remains_remove _ customs).trans (Disk.remains_remove st.disk audits))
  have hless' : (((st.disk.remove audits).remove customs).remove audits).IsClearable customs :=
    hclear'.of_remains ((Disk.remains_remove _ audits).trans (Disk.remains_remove _ customs))
  -- what is removed already stays removed
  have hagain : (((st.disk.remove audits).remove customs).remove audits).remove customs =
      (st.disk.remove audits).remove customs := by
    rw [Disk.remove_comm _ customs audits, Disk.remove_remove, Disk.remove_remove]
  rw [hemptied, resultOf_reload_of_isClearable htree.remove.remove haudits hcustoms hless hless']
  dsimp only
  rw [hagain, ← resultOf_reload_of_isClearable htree haudits hcustoms hclear hclear', h]

end RuleSets

/-! ## Workspaces -/

namespace Workspace

variable {w : Workspace} {α : Type} {st₀ st : WorkspaceState}

/-- A state whose folders for audits are empty. -/
def emptied (w : Workspace) (folders : List String) (st : WorkspaceState) : WorkspaceState :=
  { st with disk := w.storage.emptied folders st.disk }

/-- Every file that lies in some folders for audits after work was written by it: had the folders been
empty when the work began, the same files would lie there. -/
def Renews (w : Workspace) (folders : List String) (x : Work α) (st : WorkspaceState) : Prop :=
  ∀ folder ∈ folders, ∀ place, w.storage.IsIn folder place →
    (resultOf x st).2.disk.content? place = (resultOf x (w.emptied folders st)).2.disk.content? place

theorem resultOf_onRuleSets (a : RuleSets → RuleSets.Work α) (st : WorkspaceState) :
    resultOf (w.onRuleSets a) st =
      ((resultOf (a (w.ruleSets st.snapshot)) (ruleSlot.get st)).1,
        ruleSlot.put (resultOf (a (w.ruleSets st.snapshot)) (ruleSlot.get st)).2 st) := rfl

/-- A reload of the schemas leaves the disk alone. -/
theorem disk_reload_schemas (st : WorkspaceState) :
    (resultOf (w.onSchemas Schemas.reload) st).2.disk = st.disk :=
  Schemas.keeps_disk_reload (schemaSlot.get st)

theorem reload_ruleSets_renews (htree : st.disk.IsTree) {result : ReloadResult} {st' : WorkspaceState}
    (h : resultOf (w.onRuleSets RuleSets.reload) st = (.ok result, st')) :
    w.Renews [RuleSets.generatedFolder, RuleSets.customFolder] (w.onRuleSets RuleSets.reload) st := by
  intro folder _ place _
  rw [resultOf_onRuleSets] at h
  have hok : (resultOf (w.ruleSets st.snapshot).reload (ruleSlot.get st)).1 = .ok result :=
    congrArg Prod.fst h
  have hreload := resultOf_eq hok
  have hemptied := RuleSets.reload_of_emptied htree hreload
  have hdisk := congrArg (fun r => r.2.disk.content? place) (hreload.trans hemptied.symm)
  exact hdisk

/-- Right after its reload, each file of a subsystem was written by that reload: always for the
rule-sets, and for the schemas exactly if there was no file before. -/
theorem reload_renews_iff (tree : st₀.disk.IsTree) (run : Reached w st₀ st) :
    (∀ result st', resultOf (w.onRuleSets RuleSets.reload) st = (.ok result, st') →
      w.Renews [RuleSets.generatedFolder, RuleSets.customFolder] (w.onRuleSets RuleSets.reload) st) ∧
    (∀ result st', resultOf (w.onSchemas Schemas.reload) st = (.ok result, st') →
      (w.Renews [Schemas.overridesFolder] (w.onSchemas Schemas.reload) st ↔
        ∀ place, w.storage.IsIn Schemas.overridesFolder place → st.disk.content? place = none)) := by
  have htree := isTree_of_reached run tree
  refine ⟨fun result st' => reload_ruleSets_renews htree, fun result st' _ => ?_⟩
  have hnone : ∀ place, w.storage.IsIn Schemas.overridesFolder place →
      (w.emptied [Schemas.overridesFolder] st).disk.content? place = none := by
    rintro place ⟨audits, haudits, hprefix⟩
    show (w.storage.without Schemas.overridesFolder st.disk).content? place = none
    rw [Storage.without_of_place haudits]
    exact Disk.content?_remove_below hprefix
  constructor
  · intro h place hin
    have hsame := h _ List.mem_cons_self place hin
    rwa [disk_reload_schemas, disk_reload_schemas, hnone place hin] at hsame
  · rintro h folder hfolder place hin
    obtain rfl := List.mem_singleton.mp hfolder
    rw [disk_reload_schemas, disk_reload_schemas, hnone place hin, h place hin]

/-! ### A file that stays -/

/-- A schema without notes is asked for, for a profile. -/
def withoutNotes : Event := .override .invoice [{ element := "Note", minOccurs := some "0" }] (some "p")

/-- A workspace that has been asked once. -/
def askedOnce : WorkspaceState := withoutNotes.next withBoth (start lostDisk)

/-- Where the file about the schema lies. -/
def auditPlace : Place := ["assets", "auto-generated", "schema-overrides", "INVOICE_p_override.xsd"]

theorem isTree_lostDisk : lostDisk.IsTree := by
  have hall : ∀ e ∈ lostDisk.nodes, ∀ k ∈ List.range e.1.length,
      lostDisk.node? (e.1.take k) = some .folder := by decide +kernel
  exact fun e he k hk => hall e he k (List.mem_range.mpr hk)

theorem reached_askedOnce : Reached withBoth (start lostDisk) askedOnce :=
  .event withBoth.present withoutNotes nofun .start

theorem isIn_auditPlace : withBoth.storage.IsIn Schemas.overridesFolder auditPlace :=
  ⟨["assets", "auto-generated", "schema-overrides"], by decide +kernel,
    ["INVOICE_p_override.xsd"], rfl⟩

/-- Both subsystems are reloaded. The files of the rule-sets are renewed, that of the schema is not. -/
theorem reload_renews_of_override :
    lostDisk.IsTree ∧ Reached withBoth (start lostDisk) askedOnce ∧
      withBoth.Renews [RuleSets.generatedFolder, RuleSets.customFolder]
        (withBoth.onRuleSets RuleSets.reload) askedOnce ∧
      ¬ withBoth.Renews [Schemas.overridesFolder] (withBoth.onSchemas Schemas.reload) askedOnce := by
  obtain ⟨hrules, hschemas⟩ := reload_renews_iff isTree_lostDisk reached_askedOnce
  have hreload : (resultOf (withBoth.onRuleSets RuleSets.reload) askedOnce).1 =
      .ok (.ofCount RuleSets.component 1 0 []) := eq_ok_of_toOption (by decide +kernel)
  have hreload' : (resultOf (withBoth.onSchemas Schemas.reload) askedOnce).1 =
      .ok (.ofCount Schemas.component 1 0 []) := eq_ok_of_toOption (by decide +kernel)
  refine ⟨isTree_lostDisk, reached_askedOnce, hrules _ _ (resultOf_eq hreload), fun hrenews => ?_⟩
  have hnone := (hschemas _ _ (resultOf_eq hreload')).mp hrenews auditPlace isIn_auditPlace
  have hsome : (askedOnce.disk.content? auditPlace).isSome := by decide +kernel
  rw [hnone] at hsome
  cases hsome

/-- After a reload of the schemas the file is there that an earlier call has written. -/
theorem reload_leaves_override :
    (resultOf (withBoth.onSchemas Schemas.reload) askedOnce).1.isOk ∧
      ((resultOf (withBoth.onSchemas Schemas.reload) askedOnce).2.disk.content? auditPlace).isSome ∧
      ¬ withBoth.Renews [Schemas.overridesFolder] (withBoth.onSchemas Schemas.reload) askedOnce := by
  have hstays :
      ((resultOf (withBoth.onSchemas Schemas.reload) askedOnce).2.disk.content? auditPlace).isSome := by
    decide +kernel
  refine ⟨by decide +kernel, hstays, fun hrenews => ?_⟩
  rw [hrenews _ List.mem_cons_self auditPlace isIn_auditPlace] at hstays
  exact absurd hstays (by decide +kernel)

end Workspace

end Conformity
