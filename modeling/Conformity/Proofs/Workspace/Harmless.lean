import Conformity.Proofs.Cache.Alone
import Conformity.Proofs.RuleSet.Isolation
import Conformity.Proofs.Storage.Confinement
import Conformity.Proofs.Storage.Frame
import Conformity.Schema.Service

/-!
# Files for audits do no harm

What is compiled on request leaves files for audits behind. Whether the file system takes them has no
bearing on the request: it ends as it would if the files could always be written. But a folder for
audits that has no place, since it leads out of the root or since its path is none, is refused in another
way than a file system does, and this failure is passed on. So the files do no harm exactly where their
folder has a place (`Storage.audits_harmless_iff`).
-/

namespace Conformity

open Conformity.Path (Place)

variable {σ γ α : Type}

/-! ## Ending alike -/

/-- Two pieces of work end in the same way, and what they leave behind is the same but for one part of the
state. -/
structure EndsAlike (slot : Slot σ γ) (x y : ExceptT Failure (StateM σ) α) (st : σ) : Prop where
  result : (resultOf x st).1 = (resultOf y st).1
  others : ∀ c, slot.put c (resultOf x st).2 = slot.put c (resultOf y st).2

theorem EndsAlike.of_eq {slot : Slot σ γ} {x y : ExceptT Failure (StateM σ) α} {st : σ}
    (h : resultOf x st = resultOf y st) : EndsAlike slot x y st :=
  ⟨congrArg Prod.fst h, fun c => congrArg (fun r => slot.put c r.2) h⟩

namespace ComputeCache

variable {κ ν : Type} [DecidableEq κ] {cache : Slot σ (ComputeCache κ ν)} {now : Int} {told : String}
  {key : κ} {x y : ExceptT Failure (StateM σ) ν} {st : σ} {job : Computation κ}
  {kept : ComputeCache κ ν}

/-- What is obtained from a computation that ended in some way. -/
def obtained (told : String) (r : Except Failure ν) : Except Failure ν :=
  ((Outcome.ofExcept r).forJoined told).mapError .computation

theorem resultOf_obtain_of_absent (h : lookUp now key (cache.get st) = (.absent job, kept)) :
    resultOf (obtain cache now told key x) st =
      (obtained told (resultOf x (cache.put kept st)).1,
        cache.change (settle now job (Outcome.ofExcept (resultOf x (cache.put kept st)).1))
          (resultOf x (cache.put kept st)).2) := by
  rw [resultOf_obtain, h]
  rfl

/-- Nothing is computed if a value or a computation is found. -/
theorem resultOf_obtain_congr
    (h : ∀ job kept, lookUp now key (cache.get st) ≠ (.absent job, kept)) :
    resultOf (obtain cache now told key x) st = resultOf (obtain cache now told key y) st := by
  rw [resultOf_obtain, resultOf_obtain]
  rcases hfound : lookUp now key (cache.get st) with ⟨found, kept⟩
  cases found with
  | value v => rfl
  | running number => rfl
  | absent job => exact absurd hfound (h job kept)

/-- Where computations end alike, so does what obtains their values. -/
theorem endsAlike_obtain {slot : Slot σ γ}
    (apart : ∀ f c st, slot.put c (cache.change f st) = cache.change f (slot.put c st))
    (h : lookUp now key (cache.get st) = (.absent job, kept))
    (halike : EndsAlike slot x y (cache.put kept st)) :
    EndsAlike slot (obtain cache now told key x) (obtain cache now told key y) st := by
  constructor
  · rw [resultOf_obtain_of_absent h, resultOf_obtain_of_absent h, halike.result]
  · intro c
    rw [resultOf_obtain_of_absent h, resultOf_obtain_of_absent h, apart, apart, halike.result,
      halike.others]

/-- A value has to be computed, and the first part of the work that computes it ends with a value. -/
def Begins {β : Type} (cache : Slot σ (ComputeCache κ ν)) (now : Int) (key : κ)
    (first : ExceptT Failure (StateM σ) β) (st : σ) : Prop :=
  ∃ job kept b st₁, lookUp now key (cache.get st) = (.absent job, kept) ∧
    resultOf first (cache.put kept st) = (.ok b, st₁)

/-- Computations that begin in the same way end alike under a condition. If their second parts do so
exactly under this condition, then what obtains their values ends alike exactly under it, or if they do
not come to their second parts. -/
theorem endsAlike_obtain_iff {β : Type} {slot : Slot σ γ} {P : Prop}
    {first : ExceptT Failure (StateM σ) β} {f g : β → ExceptT Failure (StateM σ) ν}
    (apart : ∀ f c st, slot.put c (cache.change f st) = cache.change f (slot.put c st))
    (lawful : ∀ c c' st, slot.put c (slot.put c' st) = slot.put c st)
    (h : ∀ {st b st₁}, resultOf first st = (.ok b, st₁) → ∃ r st₂,
      (∃ c, resultOf (g b) st₁ = (r, slot.put c st₂)) ∧
        (P → ∃ c, resultOf (f b) st₁ = (r, slot.put c st₂)) ∧
          (¬ P → obtained told (resultOf (f b) st₁).1 ≠ obtained told r)) :
    EndsAlike slot (obtain cache now told key (first >>= f)) (obtain cache now told key (first >>= g)) st ↔
      P ∨ ¬ Begins cache now key first st := by
  by_cases habsent : ∃ job kept, lookUp now key (cache.get st) = (.absent job, kept)
  · obtain ⟨job, kept, hfound⟩ := habsent
    rcases hfirst : resultOf first (cache.put kept st) with ⟨result, st₁⟩
    cases result with
    | error e =>
        refine iff_of_true (endsAlike_obtain apart hfound (.of_eq ?_)) (.inr ?_)
        · rw [resultOf_bind, resultOf_bind, hfirst]
        · rintro ⟨job', kept', b, st', hfound', hfirst'⟩
          obtain ⟨-, rfl⟩ := Prod.mk.inj (hfound.symm.trans hfound')
          cases hfirst.symm.trans hfirst'
    | ok b =>
        have hbegins : Begins cache now key first st := ⟨job, kept, b, st₁, hfound, hfirst⟩
        have hbind : ∀ f : β → ExceptT Failure (StateM σ) ν,
            resultOf (first >>= f) (cache.put kept st) = resultOf (f b) st₁ := fun f => by
          rw [resultOf_bind, hfirst]
        obtain ⟨r, st₂, ⟨c, hg⟩, hf, hne⟩ := h hfirst
        rw [or_iff_left (not_not_intro hbegins)]
        constructor
        · intro halike
          by_contra hP
          have hresult := halike.result
          rw [resultOf_obtain_of_absent hfound, resultOf_obtain_of_absent hfound, hbind, hbind, hg]
            at hresult
          exact hne hP hresult
        · intro hP
          obtain ⟨c', hf⟩ := hf hP
          refine endsAlike_obtain apart hfound ⟨?_, fun c => ?_⟩
          · rw [hbind, hbind, hf, hg]
          · rw [hbind, hbind, hf, hg, lawful, lawful]
  · rw [not_exists] at habsent
    refine iff_of_true (.of_eq (resultOf_obtain_congr fun job kept hfound => ?_)) (.inr ?_)
    · exact habsent job ⟨kept, hfound⟩
    · rintro ⟨job, kept, -, -, hfound, -⟩
      exact habsent job ⟨kept, hfound⟩

end ComputeCache

/-! ## Writing for audits -/

namespace Storage

/-- What writes a file for audits, by its folder and its name, and tells its place. -/
abbrev Writer := String → String → Bytes → Disk.Action Place

/-- A writer that always succeeds. Whatever else it does, files stay files. -/
structure Writer.IsObliging (write : Writer) : Prop where
  answers : ∀ folder name content d, ∃ place, (resultOf (write folder name content) d).1 = .ok place
  spares : ∀ folder name content d p, (Disk.content? d p).isSome →
    ((resultOf (write folder name content) d).2.content? p).isSome

/-- An action that only the file system refuses, and that leaves files as files. -/
structure IsHarmless (a : Disk.Action Place) : Prop where
  fails : FailsOnly Failure.isSystem a
  spares : ∀ d p, (Disk.content? d p).isSome → ((resultOf a d).2.content? p).isSome

theorem Writer.IsObliging.isHarmless {write : Writer} (h : write.IsObliging) (folder name : String)
    (content : Bytes) : IsHarmless (write folder name content) := by
  refine ⟨fun d e he => ?_, fun d p => h.spares folder name content d p⟩
  obtain ⟨place, hplace⟩ := h.answers folder name content d
  rw [hplace] at he
  cases he

/-- There is a place for a folder for audits. -/
def HasFolder (s : Storage) (folder : String) : Prop :=
  ∃ audits, s.place (s.generatedFolder ++ "/" ++ folder) = .ok audits

variable {s : Storage} {folder name : String} {d : Disk} {p q : Place}

theorem isSome_content?_of_grows {d' : Disk} (h : Disk.Grows d d') (hfile : (d.content? p).isSome) :
    (d'.content? p).isSome := by
  obtain ⟨content, hcontent⟩ := Option.isSome_iff_exists.mp hfile
  obtain ⟨hleads, hnode⟩ := Disk.content?_eq_some_iff.mp hcontent
  have hstays := Disk.content?_eq_some_iff.mpr
    ⟨⟨fun q hq hne => h.node?_eq (hleads.folders q hq hne), hleads.names⟩, h.node?_eq hnode⟩
  rw [hstays]
  rfl

theorem isSome_content?_put {content : Bytes} (hfolder : d.find q = .ok .folder)
    (htakes : d.Takes (q ++ [name])) (hfile : (d.content? p).isSome) :
    ((d.put (q ++ [name]) (.file content)).content? p).isSome := by
  have hleads := htakes.leads hfolder
  by_cases hp : p = q ++ [name]
  · rw [hp, Disk.content?_put_self (by simp) hleads]
    rfl
  · rwa [Disk.content?_put_of_ne (by simp) (htakes.node?_ne_folder hleads) hp]

theorem isHarmless_writeGenerated (h : s.HasFolder folder)
    (hname : (name.toList.any fun c => c.toNat == 0) = false) (content : Bytes) :
    IsHarmless (s.writeGenerated folder name content) := by
  obtain ⟨audits, haudits⟩ := h
  refine ⟨failsOnly_writeGenerated haudits hname content, fun d p hfile => ?_⟩
  obtain ⟨d₁, hgrows, ⟨e, hwrite⟩ | ⟨last, hfolder, htakes, hwrite⟩⟩ :=
    writeGenerated_cases haudits name content d
  · rw [hwrite]
    exact isSome_content?_of_grows hgrows hfile
  · rw [hwrite]
    exact isSome_content?_put hfolder htakes (isSome_content?_of_grows hgrows hfile)

/-- Where there is no place for the folder, nothing is written, and the failure tells why. -/
theorem resultOf_writeGenerated_of_no_folder (h : ¬ s.HasFolder folder) (name : String) (content : Bytes)
    (d : Disk) :
    ∃ e, (e = .nulInPath ∨ ∃ path, e = .outside path) ∧
      resultOf (s.writeGenerated folder name content) d = (.error (.refused e), d) := by
  unfold writeGenerated generatedPlace placeOf
  have hplace := confined_place s (s.generatedFolder ++ "/" ++ folder)
  rcases hfound : s.place (s.generatedFolder ++ "/" ++ folder) with e | audits
  · refine ⟨e, ?_, rfl⟩
    rw [hfound] at hplace
    cases hplace with
    | outside _ _ _ => exact .inr ⟨_, rfl⟩
    | nul _ => exact .inl rfl
  · exact absurd ⟨audits, hfound⟩ h

/-- What can be read is a file. -/
theorem exists_file_of_read {path : String} {content : Bytes} {d' : Disk}
    (h : resultOf (s.read path) d = (.ok content, d')) :
    ∃ place, s.place path = .ok place ∧ (d'.content? place).isSome := by
  have hkeeps := ProfileStore.keeps_read s path d
  rw [h] at hkeeps
  obtain rfl : d' = d := hkeeps
  unfold read placeOf at h
  cases hplace : s.place path with
  | error e =>
      rw [hplace] at h
      cases h
  | ok place =>
      refine ⟨place, rfl, ?_⟩
      rw [hplace] at h
      have hlook : resultOf (Disk.look place >>= _) d' = _ := h
      unfold Disk.look at hlook
      rw [resultOf_bind, resultOf_bind, resultOf_get] at hlook
      unfold Disk.content?
      revert hlook
      dsimp only
      rcases d'.find place with e | node
      · cases e <;> simp
      · cases node <;> simp

theorem resultOf_locate_of_file {path : String} {place : Place} (hplace : s.place path = .ok place)
    (hfile : (d.content? place).isSome) : resultOf (s.locate path) d = (.ok place, d) := by
  obtain ⟨content, hcontent⟩ := Option.isSome_iff_exists.mp hfile
  have hfind := Disk.find_eq_ok_iff.mpr (Disk.content?_eq_some_iff.mp hcontent)
  unfold locate placeOf Disk.holds
  rw [hplace]
  show resultOf ((Disk.look place >>= _) >>= _) d = _
  rw [resultOf_bind, resultOf_bind, Disk.resultOf_look_of_ok hfind]
  rfl

/-- Something is written for audits. A failure of the file system is passed over. -/
def audited (slot : Slot σ Disk) (a : Disk.Action Place) : ExceptT Failure (StateM σ) Unit :=
  tryCatch (do let _ ← slot.lift a) fun e => if e.isSystem then return () else throw e

variable {slot : Slot σ Disk} {a : Disk.Action Place} {st : σ}

theorem resultOf_audited (st : σ) : resultOf (audited slot a) st =
    match resultOf a (slot.get st) with
    | (.ok _, d) => (.ok ⟨⟩, slot.put d st)
    | (.error e, d) => (if e.isSystem then .ok ⟨⟩ else .error e, slot.put d st) := by
  have hlift : resultOf (slot.lift a) st =
      ((resultOf a (slot.get st)).1, slot.put (resultOf a (slot.get st)).2 st) := rfl
  unfold audited
  rw [resultOf_tryCatch, resultOf_bind, hlift]
  rcases resultOf a (slot.get st) with ⟨result, d⟩
  cases result with
  | ok place => rfl
  | error e => 
      dsimp only
      split <;> rfl

theorem resultOf_audited_of_isHarmless (h : IsHarmless a) (st : σ) :
    resultOf (audited slot a) st = (.ok ⟨⟩, slot.put (resultOf a (slot.get st)).2 st) := by
  rw [resultOf_audited]
  have hfails := @h.fails (slot.get st)
  rcases heq : resultOf a (slot.get st) with ⟨result, d⟩
  rw [heq] at hfails
  cases result with
  | ok place => rfl
  | error e =>
      dsimp only
      rw [if_pos (hfails rfl)]

end Storage

/-! ## Rule-sets -/

namespace RuleSets

open Storage (Writer audited IsHarmless)

variable {s : RuleSets} {t : RuleSetType} {as : List Assertion} {write : Writer} {st : RuleSetState}

/-- A rule-set with assertions and its source, before any files are written. -/
def ready (s : RuleSets) (t : RuleSetType) (assertions : List Assertion) (profile : String) :
    Work (RuleSource × Artifact) := do
  let c ← s.setting t
  if c.kind = .stylesheet then throw (.unavailable (.fixedRuleSet t.name))
  else
    let injected ← s.inject (← s.source t) assertions profile
    let a ← withEngine
      (Artifact.compile s.engine s.compiler injected (t.name ++ "[" ++ profile ++ "]"))
    return (injected, a)

/-- The name of the files about a rule-set with assertions. -/
def auditName (t : RuleSetType) (profile : String) : String :=
  t.name ++ "_" ++ safeIdentifier (some profile) ++ "_custom"

/-- Has the files about a rule-set written by some writer, and gives the rule-set out. -/
def giveOutBy (s : RuleSets) (write : Writer) (t : RuleSetType) (assertions : List Assertion)
    (profile : String) (found : RuleSource × Artifact) : Work Artifact := do
  audited disk (write customFolder (auditName t profile ++ ".xml")
    (withLeadingComment found.1.content (s.auditNote t profile assertions)))
  audited disk (write customFolder (auditName t profile ++ ".xsl") found.2.generated)
  return found.2

/-- The rule-set of a type with further assertions, where files are written by some writer. -/
def customBy (s : RuleSets) (write : Writer) (t : RuleSetType) (assertions : List Assertion)
    (profile : Option String) : Work Artifact :=
  let k := s.key t assertions profile
  ComputeCache.obtain cache s.present.ticks k.told k
    (s.ready t (s.globalsFor t ++ assertions) k.profile >>=
      s.giveOutBy write t (s.globalsFor t ++ assertions) k.profile)

theorem writeCustomAudit_eq (s : RuleSets) (t : RuleSetType) (profile : String) (injected : Bytes)
    (a : Artifact) (as : List Assertion) : s.writeCustomAudit t profile injected a as = (do
      audited disk (s.storage.writeGenerated customFolder (auditName t profile ++ ".xml")
        (withLeadingComment injected (s.auditNote t profile as)))
      audited disk (s.storage.writeGenerated customFolder (auditName t profile ++ ".xsl")
        a.generated)) := rfl

/-- What the storage writes is written. -/
theorem customBy_writeGenerated (s : RuleSets) (t : RuleSetType) (as : List Assertion)
    (profile : Option String) : s.customBy s.storage.writeGenerated t as profile = s.custom t as profile := by
  refine congrArg (ComputeCache.obtain cache s.present.ticks _ _) ?_
  unfold ready compileCustom
  rw [bind_assoc]
  refine bind_congr fun c => ?_
  split
  · rfl
  · simp only [bind_assoc, pure_bind, writeCustomAudit_eq, giveOutBy]

variable {profile : String} {st₁ : RuleSetState}

theorem not_any_nul_auditName (t : RuleSetType) (profile : String) {ending : String}
    (h : Markup.isWritable ending = true) :
    ((auditName t profile ++ ending).toList.any fun c => c.toNat == 0) = false := by
  have hparts : Markup.isWritable "_" = true ∧ Markup.isWritable "_custom" = true := by decide
  refine not_any_nul_of_isWritable ?_
  simp only [auditName, Injection.isWritable_append, isWritable_name, Injection.isWritable_safeIdentifier,
    hparts, h, and_self]

/-- Files that do no harm change the disk at most. -/
theorem resultOf_giveOutBy (hwrite : ∀ name content, (name.toList.any fun c => c.toNat == 0) = false →
      IsHarmless (write customFolder name content)) (found : RuleSource × Artifact)
    (st : RuleSetState) : ∃ d,
      resultOf (s.giveOutBy write t as profile found) st = (.ok found.2, disk.put d st) := by
  have hxml := hwrite _ (withLeadingComment found.1.content (s.auditNote t profile as))
    (not_any_nul_auditName t profile (by decide : Markup.isWritable ".xml" = true))
  have hxsl := hwrite _ found.2.generated
    (not_any_nul_auditName t profile (by decide : Markup.isWritable ".xsl" = true))
  unfold giveOutBy
  rw [resultOf_bind, Storage.resultOf_audited_of_isHarmless hxml]
  dsimp only
  rw [resultOf_bind, Storage.resultOf_audited_of_isHarmless hxsl]
  exact ⟨_, rfl⟩

/-- Without a place for the files, a rule-set is not given out. -/
theorem exists_error_of_no_folder (hfolder : ¬ s.storage.HasFolder customFolder)
    (found : RuleSource × Artifact) (st : RuleSetState) : ∃ e,
      (resultOf (s.giveOutBy s.storage.writeGenerated t as profile found) st).1 =
        .error (.refused e) := by
  obtain ⟨e, -, hwrite⟩ := Storage.resultOf_writeGenerated_of_no_folder hfolder
    (auditName t profile ++ ".xml")
    (withLeadingComment found.1.content (s.auditNote t profile as)) (disk.get st)
  refine ⟨e, ?_⟩
  unfold giveOutBy
  rw [resultOf_bind, Storage.resultOf_audited, hwrite]
  rfl

/-- What is asked for has to be compiled and can be, so that files about it are to be written. -/
def Writes (s : RuleSets) (t : RuleSetType) (assertions : List Assertion) (profile : Option String)
    (st : RuleSetState) : Prop :=
  let k := s.key t assertions profile
  ComputeCache.Begins cache s.present.ticks k (s.ready t (s.globalsFor t ++ assertions) k.profile) st

/-- A rule-set is obtained as with a writer that always succeeds, exactly if there is a place for the
files or none are to be written. -/
theorem endsAlike_custom_iff (h : write.IsObliging) (profile : Option String) :
    EndsAlike disk (s.custom t as profile) (s.customBy write t as profile) st ↔
      s.storage.HasFolder customFolder ∨ ¬ s.Writes t as profile st := by
  rw [← customBy_writeGenerated]
  refine ComputeCache.endsAlike_obtain_iff (fun _ _ _ => rfl) (fun _ _ _ => rfl)
    fun {_ found st₁} _ => ⟨.ok found.2, st₁, ?_, fun hfolder => ?_, fun hfolder heq => ?_⟩
  · exact resultOf_giveOutBy (fun name content _ => h.isHarmless _ name content) found st₁
  · exact resultOf_giveOutBy
      (fun name content hname => Storage.isHarmless_writeGenerated hfolder hname content) found st₁
  · obtain ⟨e, he⟩ := exists_error_of_no_folder hfolder found st₁
    rw [he] at heq
    cases heq

end RuleSets

/-! ## Schemas -/

namespace Schemas

open Storage (Writer audited IsHarmless)

variable {s : Schemas} {t : SchemaType} {overrides : List Override} {profile : Option String}
  {write : Writer} {st st₁ : SchemaState} {path : String} {content : Bytes}
  {found : String × Bytes × OverrideReport}

/-- The name of the file about a schema with overrides. -/
def auditName (t : SchemaType) (profile : Option String) : String :=
  t.name ++ "_" ++ ((profile.map fun p => safeIdentifier (some p)).getD "adhoc") ++ "_override.xsd"

/-- Has the file about a schema with overrides written by some writer, and compiles the schema. -/
def giveOutBy (s : Schemas) (write : Writer) (t : SchemaType) (overrides : List Override)
    (profile : Option String) (found : String × Bytes × OverrideReport) : Work Schema := do
  audited disk (write overridesFolder (auditName t profile)
    (withLeadingComment found.2.1 (s.auditNote t profile overrides found.2.2)))
  s.compileContent t found.2.1 found.1

/-- The schema of a type with overrides, where files are written by some writer. -/
def customBy (s : Schemas) (write : Writer) (t : SchemaType) (overrides : List Override)
    (profile : Option String) : Work Schema :=
  let k := OverrideKey.of t.name overrides
  ComputeCache.obtain cache s.present.ticks k.told k
    (s.overridden t overrides >>=
      s.giveOutBy write t overrides (profile.filter fun p => !p.isEmpty))

theorem writeAudit_eq (s : Schemas) (t : SchemaType) (profile : Option String)
    (overrides : List Override) (content : Bytes) (r : OverrideReport) :
    s.writeAudit t profile overrides content r =
      audited disk (s.storage.writeGenerated overridesFolder (auditName t profile)
        (withLeadingComment content (s.auditNote t profile overrides r))) := rfl

/-- What the storage writes is written. -/
theorem customBy_writeGenerated (s : Schemas) (t : SchemaType) (overrides : List Override)
    (profile : Option String) :
    s.customBy s.storage.writeGenerated t overrides profile = s.custom t overrides profile := by
  refine congrArg (ComputeCache.obtain cache s.present.ticks _ _) ?_
  unfold compileOverridden giveOutBy
  simp only [writeAudit_eq]

theorem not_any_nul_auditName (t : SchemaType) (profile : Option String) :
    ((auditName t profile).toList.any fun c => c.toNat == 0) = false := by
  have hname : Markup.isWritable t.name = true := by cases t <;> decide
  have hparts : Markup.isWritable "_" = true ∧ Markup.isWritable "adhoc" = true ∧
      Markup.isWritable "_override.xsd" = true := by decide
  refine RuleSets.not_any_nul_of_isWritable ?_
  cases profile with
  | none =>
      simp only [auditName, Option.map_none, Option.getD_none, Injection.isWritable_append, hname, hparts,
        and_self]
  | some p =>
      simp only [auditName, Option.map_some, Option.getD_some, Injection.isWritable_append,
        Injection.isWritable_safeIdentifier, hname, hparts, and_self]

theorem resultOf_onDisk {α : Type} (a : Disk.Action α) (st : SchemaState) :
    resultOf (onDisk a) st = ((resultOf a st.disk).1, { st with disk := (resultOf a st.disk).2 }) :=
  rfl

/-- A schema to which overrides were applied is there. -/
theorem exists_file_of_overridden
    (h : resultOf (s.overridden t overrides) st = (.ok found, st₁)) :
    ∃ place, s.storage.place found.1 = .ok place ∧ (st₁.disk.content? place).isSome := by
  unfold overridden at h
  obtain ⟨path', st', -, h⟩ := resultOf_bind_eq_ok h
  obtain ⟨source, st'', hread, h⟩ := resultOf_bind_eq_ok h
  rw [resultOf_onDisk] at hread
  obtain ⟨hok, rfl⟩ := Prod.mk.inj hread
  obtain ⟨place, hplace, hfile⟩ := Storage.exists_file_of_read (resultOf_eq hok)
  cases happly : Overridden.apply source overrides with
  | error e =>
      rw [happly] at h
      cases h
  | ok applied =>
      obtain ⟨content', r'⟩ := applied
      rw [happly] at h
      cases h
      exact ⟨place, hplace, hfile⟩

/-- What compiling a content comes to. -/
def compiled (s : Schemas) (t : SchemaType) (content : Bytes) : Except Failure Schema :=
  (s.engine.compileSchema content).mapError fun f =>
    .compilation ⟨.schema t.name f.message, f.diagnostics⟩

theorem resultOf_compileContent {place : Place} (hplace : s.storage.place path = .ok place)
    (hfile : (st.disk.content? place).isSome) : resultOf (s.compileContent t content path) st =
      (s.compiled t content, { st with log := { st.log with schemas := st.log.schemas + 1 } }) := by
  unfold compileContent compiled
  rw [resultOf_bind, resultOf_onDisk, Storage.resultOf_locate_of_file hplace hfile]
  dsimp only
  rw [resultOf_bind, resultOf_modify]
  cases s.engine.compileSchema content <;> rfl

/-- The state in which a schema has been compiled. -/
def counted (st : SchemaState) : SchemaState :=
  { st with log := { st.log with schemas := st.log.schemas + 1 } }

/-- A file that does no harm changes the disk at most, and the schema is still there. -/
theorem resultOf_giveOutBy (hwrite : ∀ name content, (name.toList.any fun c => c.toNat == 0) = false →
      IsHarmless (write overridesFolder name content))
    (h : resultOf (s.overridden t overrides) st = (.ok found, st₁)) :
    ∃ d, resultOf (s.giveOutBy write t overrides profile found) st₁ =
      (s.compiled t found.2.1, disk.put d (counted st₁)) := by
  obtain ⟨place, hplace, hfile⟩ := exists_file_of_overridden h
  have hharmless := hwrite _ (withLeadingComment found.2.1 (s.auditNote t profile overrides found.2.2))
    (not_any_nul_auditName t profile)
  unfold giveOutBy
  rw [resultOf_bind, Storage.resultOf_audited_of_isHarmless hharmless]
  dsimp only
  rw [resultOf_compileContent hplace (hharmless.spares _ _ hfile)]
  exact ⟨_, rfl⟩

/-- Without a place for the file, the schema is not compiled. -/
theorem exists_error_of_no_folder (hfolder : ¬ s.storage.HasFolder overridesFolder)
    (found : String × Bytes × OverrideReport) (st : SchemaState) :
    ∃ e, (e = .nulInPath ∨ ∃ path, e = .outside path) ∧
      (resultOf (s.giveOutBy s.storage.writeGenerated t overrides profile found) st).1 =
        .error (.refused e) := by
  obtain ⟨e, he, hwrite⟩ := Storage.resultOf_writeGenerated_of_no_folder hfolder (auditName t profile)
    (withLeadingComment found.2.1 (s.auditNote t profile overrides found.2.2)) (disk.get st)
  refine ⟨e, he, ?_⟩
  unfold giveOutBy
  rw [resultOf_bind, Storage.resultOf_audited, hwrite]
  rfl

theorem exists_compilation_message (t : SchemaType) (f : EngineFault) : ∃ rest,
    (Failure.compilation ⟨.schema t.name f.message, f.diagnostics⟩).message = "Schema " ++ rest := by
  have hmessage : (Failure.compilation ⟨.schema t.name f.message, f.diagnostics⟩).message =
      if f.diagnostics.isEmpty then "Schema " ++ t.name ++ " does not compile: " ++ f.message
      else "Schema " ++ t.name ++ " does not compile: " ++ f.message ++ " (" ++
        toString f.diagnostics.length ++ " diagnostic(s)): " ++ Diagnostic.joined f.diagnostics := rfl
  rw [hmessage]
  simp only [String.append_assoc, ← apply_ite]
  exact ⟨_, rfl⟩

theorem refused_message_ne {e : Refused} (he : e = .nulInPath ∨ ∃ path, e = .outside path)
    (rest : String) : e.message ≠ "Schema " ++ rest := by
  have hschema : ("Schema ".toList ++ rest.toList).head? = some 'S' := rfl
  intro heq
  have hhead := congrArg (fun m => m.toList.head?) heq
  rw [String.toList_append, hschema] at hhead
  rcases he with rfl | ⟨path, rfl⟩
  · exact absurd hhead (by decide +kernel)
  · have hmessage : (Refused.outside path).message = "Asset path escapes storage root: " ++ path := rfl
    have hasset : ("Asset path escapes storage root: ".toList ++ path.toList).head? = some 'A' := rfl
    rw [hmessage, String.toList_append, hasset] at hhead
    exact absurd hhead (by decide)

/-- No schema fails to compile for the reason that a path is refused. -/
theorem obtained_refused_ne {told : String} {e : Refused}
    (he : e = .nulInPath ∨ ∃ path, e = .outside path) (content : Bytes) :
    ComputeCache.obtained told (.error (.refused e)) ≠
      ComputeCache.obtained told (s.compiled t content) := by
  unfold compiled
  cases s.engine.compileSchema content with
  | ok schema => nofun
  | error f =>
      intro heq
      have hmessage : e.message = (Failure.compilation ⟨.schema t.name f.message, f.diagnostics⟩).message :=
        congrArg ComputationFault.reason (Failure.computation.inj (Except.error.inj heq))
      obtain ⟨rest, hrest⟩ := exists_compilation_message t f
      rw [hrest] at hmessage
      exact refused_message_ne he rest hmessage

/-- What is asked for has to be compiled and overrides can be applied, so that a file about it is to be
written. -/
def Writes (s : Schemas) (t : SchemaType) (overrides : List Override) (st : SchemaState) : Prop :=
  ComputeCache.Begins cache s.present.ticks (OverrideKey.of t.name overrides) (s.overridden t overrides) st

/-- A schema is obtained as with a writer that always succeeds, exactly if there is a place for the file
or none is to be written. -/
theorem endsAlike_custom_iff (h : write.IsObliging) (profile : Option String) :
    EndsAlike disk (s.custom t overrides profile) (s.customBy write t overrides profile) st ↔
      s.storage.HasFolder overridesFolder ∨ ¬ s.Writes t overrides st := by
  rw [← customBy_writeGenerated]
  refine ComputeCache.endsAlike_obtain_iff (fun _ _ _ => rfl) (fun _ _ _ => rfl)
    fun {_ found st₁} hfound =>
      ⟨s.compiled t found.2.1, counted st₁, ?_, fun hfolder => ?_, fun hfolder => ?_⟩
  · exact resultOf_giveOutBy (fun name content _ => h.isHarmless _ name content) hfound
  · exact resultOf_giveOutBy
      (fun name content hname => Storage.isHarmless_writeGenerated hfolder hname content) hfound
  · obtain ⟨e, he, herror⟩ := exists_error_of_no_folder hfolder found st₁
    rw [herror]
    exact obtained_refused_ne he found.2.1

end Schemas

namespace Storage

/-- Whatever is asked for, with whatever configuration and in whatever state: it ends as with a writer that
always succeeds, and leaves the same behind but on the disk, exactly if there is a place for the files
about it or none are to be written. -/
theorem audits_harmless_iff {write : Writer} (h : write.IsObliging) :
    (∀ (s : RuleSets) t assertions profile st,
      EndsAlike RuleSets.disk (s.custom t assertions profile) (s.customBy write t assertions profile) st ↔
        s.storage.HasFolder RuleSets.customFolder ∨ ¬ s.Writes t assertions profile st) ∧
    ∀ (s : Schemas) t overrides profile st,
      EndsAlike Schemas.disk (s.custom t overrides profile) (s.customBy write t overrides profile) st ↔
        s.storage.HasFolder Schemas.overridesFolder ∨ ¬ s.Writes t overrides st :=
  ⟨fun _ _ _ profile _ => RuleSets.endsAlike_custom_iff h profile,
    fun _ _ _ profile _ => Schemas.endsAlike_custom_iff h profile⟩

/-! ### Two ways to be in the way -/

/-- A writer that writes nothing. -/
def Writer.idle : Writer := fun folder name _ => return [folder, name]

theorem isObliging_idle : Writer.idle.IsObliging :=
  ⟨fun folder name _ _ => ⟨[folder, name], rfl⟩, fun _ _ _ _ _ h => h⟩

/-- Rule-sets whose files for audits go into a folder. -/
def ruleSetsWith (generatedFolder : String) : RuleSets :=
  { RuleSets.letThrough with storage := { root := ["assets"], generatedFolder } }

/-- Schemas whose files for audits go into a folder. -/
def schemasWith (generatedFolder : String) : Schemas where
  storage := { root := ["assets"], generatedFolder }
  configured := [(.invoice, "invoice.xsd")]
  engine := RuleSets.letThrough.engine
  present := RuleSets.letThrough.present

/-- A disk with both sources. Where the folder for audits would be there is a file. -/
def blocked : Disk where
  nodes :=
    [(["assets"], .folder),
      (["assets", "main.sch"], .file (bytesOf "<schema xmlns=\"http://purl.oclc.org/dsdl/schematron\"/>")),
      (["assets", "invoice.xsd"], .file (bytesOf
        "<schema xmlns=\"http://www.w3.org/2001/XMLSchema\"><element ref=\"Note\"/></schema>")),
      (["assets", "auto-generated"], .file [])]

/-- Nothing has been compiled yet. -/
def freshRuleSets : RuleSetState := ⟨blocked, {}, [], { name := "rule", maxSize := 50, lifetime := 3600 }⟩

/-- Nothing has been compiled yet. -/
def freshSchemas : SchemaState := ⟨blocked, {}, [], { name := "schema", maxSize := 50, lifetime := 3600 }⟩

/-- A note may be missing. -/
def optionalNote : List Override := [{ element := "Note", minOccurs := some "0" }]

/-- The file system refuses the files, and both are obtained as if it had not. -/
theorem audits_harmless_of_blocked :
    Writer.idle.IsObliging ∧
      (resultOf ((ruleSetsWith "auto-generated").storage.writeGenerated RuleSets.customFolder "a" [])
        blocked).1 = .error (.system .notFolder) ∧
      (resultOf ((ruleSetsWith "auto-generated").custom .ubltrMain [RuleSets.hasId] (some "p"))
        freshRuleSets).1.isOk ∧
      (resultOf ((schemasWith "auto-generated").custom .invoice optionalNote (some "p"))
        freshSchemas).1.isOk := by
  obtain ⟨hrules, hschemas⟩ := audits_harmless_iff isObliging_idle
  have hcustoms : (ruleSetsWith "auto-generated").storage.HasFolder RuleSets.customFolder :=
    ⟨["assets", "auto-generated", "schematron-rules"], by decide +kernel⟩
  have hoverrides : (schemasWith "auto-generated").storage.HasFolder Schemas.overridesFolder :=
    ⟨["assets", "auto-generated", "schema-overrides"], by decide +kernel⟩
  refine ⟨isObliging_idle, by decide +kernel, ?_, ?_⟩
  · rw [((hrules _ _ _ _ freshRuleSets).mpr (.inl hcustoms)).result]
    decide +kernel
  · rw [((hschemas _ _ _ _ freshSchemas).mpr (.inl hoverrides)).result]
    decide +kernel

/-- Where the folder for audits leads out of the root, neither is obtained. -/
theorem audits_harmful_of_outside :
    ¬ EndsAlike RuleSets.disk
        ((ruleSetsWith "../out").custom .ubltrMain [RuleSets.hasId] (some "p"))
        ((ruleSetsWith "../out").customBy .idle .ubltrMain [RuleSets.hasId] (some "p")) freshRuleSets ∧
      ¬ EndsAlike Schemas.disk
        ((schemasWith "../out").custom .invoice optionalNote (some "p"))
        ((schemasWith "../out").customBy .idle .invoice optionalNote (some "p")) freshSchemas := by
  constructor
  · intro halike
    exact absurd (congrArg Except.isOk halike.result) (by decide +kernel)
  · intro halike
    exact absurd (congrArg Except.isOk halike.result) (by decide +kernel)

end Storage

end Conformity
