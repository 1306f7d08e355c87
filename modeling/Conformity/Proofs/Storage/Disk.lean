import Mathlib.Data.List.Infix
import Conformity.Storage.Basic
import Conformity.Proofs.Work

/-!
# What is written to a disk

A file is found at a place if it stands there and all folders on the way are there
(`Disk.find_eq_ok_iff`). An asset is written beside its place first and moved afterwards, so that a
write that fails leaves the file at the place as it was (`Storage.content?_write_of_error`), and one
that does not fail puts the new content there (`Storage.content?_write_of_ok`).

A walk to a place fails in two ways that count as nothing there, and in a third way if a name is too
long. Where a generated folder has a place, a file is written into it or the file system refuses it
(`Storage.failsOnly_writeGenerated`).
-/

namespace Conformity.Disk

open Conformity.Path (Place)

variable {d d' : Disk} {p q folder : Place} {n : FileNode} {name : String} {names rest : List String}

/-! ## Nodes -/

theorem lookup_cons_eq {e : Place × FileNode} {es : List (Place × FileNode)} :
    (e :: es).lookup p = if p = e.1 then some e.2 else es.lookup p := by
  obtain ⟨q, n⟩ := e
  by_cases h : p = q
  · simp [h]
  · simp [List.lookup_cons, beq_eq_false_iff_ne.mpr h, h]

theorem lookup_map_of_ne {es : List (Place × FileNode)} (h : p ≠ q) :
    (es.map fun e => if e.1 == q then (q, n) else e).lookup p = es.lookup p := by
  induction es with
  | nil => rfl
  | cons e es ih =>
      rw [List.map_cons, lookup_cons_eq, lookup_cons_eq, ih]
      by_cases he : e.1 = q <;> simp [he, h]

theorem lookup_map_self {es : List (Place × FileNode)} (h : es.any (·.1 == q)) :
    (es.map fun e => if e.1 == q then (q, n) else e).lookup q = some n := by
  induction es with
  | nil => simp at h
  | cons e es ih =>
      rw [List.map_cons, lookup_cons_eq]
      by_cases he : e.1 = q
      · simp [he]
      · rw [if_neg (by simpa [he] using Ne.symm he)]
        exact ih (by simpa [he] using h)

theorem lookup_eq_none_of_not_any {es : List (Place × FileNode)} (h : ¬ es.any (·.1 == q)) :
    es.lookup q = none := by
  induction es with
  | nil => rfl
  | cons e es ih =>
      simp only [List.any_cons, Bool.or_eq_true, beq_iff_eq, not_or] at h
      rw [lookup_cons_eq, if_neg (Ne.symm h.1)]
      exact ih h.2

theorem node?_of_ne_nil (h : p ≠ []) : d.node? p = d.nodes.lookup p := by
  unfold node?
  rw [if_neg (by simpa using h)]

theorem node?_put (hq : q ≠ []) : (d.put q n).node? p = if p = q then some n else d.node? p := by
  by_cases hp : p = []
  · rw [if_neg (hp ▸ hq.symm), hp]
    rfl
  · rw [node?_of_ne_nil hp, node?_of_ne_nil hp]
    unfold put
    split
    · next h =>
      split
      · next heq => rw [heq, lookup_map_self h]
      · next hne => exact lookup_map_of_ne hne
    · next h =>
      rw [List.lookup_append, lookup_cons_eq]
      split
      · next heq => rw [heq, lookup_eq_none_of_not_any h]; simp
      · simp

theorem node?_remove (hp : p ≠ []) :
    (d.remove q).node? p = if Path.isWithin q p then none else d.node? p := by
  rw [node?_of_ne_nil hp, node?_of_ne_nil hp]
  unfold remove
  induction d.nodes with
  | nil => simp
  | cons e es ih =>
      rw [List.filter_cons]
      by_cases he : Path.isWithin q e.1
      · rw [if_neg (by simpa using he), ih, lookup_cons_eq]
        split
        · rfl
        · next h => rw [if_neg fun heq : p = e.1 => h (heq ▸ he)]
      · rw [if_pos (by simpa using he), lookup_cons_eq, ih, lookup_cons_eq]
        by_cases heq : p = e.1
        · simp [heq, he]
        · simp [heq]

/-- What is put inside a folder changes nothing on the way to the folder. -/
theorem node?_put_below (name : String) (n : FileNode) (hq : q <+: p) :
    (d.put (p ++ [name]) n).node? q = d.node? q := by
  have hlength := hq.length_le
  rw [node?_put (by simp), if_neg]
  rintro rfl
  rw [List.length_append, List.length_singleton] at hlength
  omega

theorem node?_remove_below (name : String) (hq : q <+: p) :
    (d.remove (p ++ [name])).node? q = d.node? q := by
  by_cases hnil : q = []
  · rw [hnil]
    rfl
  · have hlength := hq.length_le
    rw [node?_remove hnil, if_neg]
    intro hwithin
    have hle := (List.isPrefixOf_iff_prefix.mp hwithin).length_le
    rw [List.length_append, List.length_singleton] at hle
    omega

/-! ## Walking -/

/-- All folders on the way to a place are there, and no name of it is too long. -/
structure Leads (d : Disk) (p : Place) : Prop where
  folders : ∀ q, q <+: p → q ≠ p → d.node? q = some .folder
  names : ∀ name ∈ p, ¬ isTooLong name

theorem seek_append (h : d.seek folder names = .ok .folder) :
    d.seek folder (names ++ rest) = d.seek (folder ++ names) rest := by
  induction names generalizing folder with
  | nil => simp
  | cons name names ih =>
      rw [seek] at h
      rw [List.cons_append, seek]
      split at h
      · cases h
      · next hlong =>
        rw [if_neg hlong]
        split at h
        · cases h
        · simpa using ih h
        · split at h <;> cases h

theorem seek_of_seek_concat (h : d.seek folder (names ++ [name]) = .ok n) :
    d.seek folder names = .ok .folder := by
  induction names generalizing folder with
  | nil => rfl
  | cons m names ih =>
      rw [List.cons_append, seek] at h
      rw [seek]
      split at h
      · cases h
      · next hlong =>
        rw [if_neg hlong]
        split at h
        · cases h
        · exact ih h
        · simp at h

/-- What stands at a place is found if the folder around it is. -/
theorem find_concat (h : d.find p = .ok .folder) : d.find (p ++ [name]) =
    if isTooLong name then .error .nameTooLong
    else
      match d.node? (p ++ [name]) with
      | none => .error .notFound
      | some n => .ok n := by
  unfold find at h ⊢
  rw [seek_append h, List.nil_append, seek]
  split
  · rfl
  · split <;> simp_all [seek]

theorem leads_concat : d.Leads (p ++ [name]) ↔
    d.Leads p ∧ d.node? p = some .folder ∧ ¬ isTooLong name := by
  constructor
  · intro h
    have hp : p <+: p ++ [name] := List.prefix_append p [name]
    refine ⟨⟨fun q hq _ => h.folders q (hq.trans hp) ?_,
      fun m hm => h.names m (List.mem_append_left _ hm)⟩,
      h.folders p hp (by simp), h.names name (by simp)⟩
    rintro rfl
    exact absurd hq.length_le (by simp)
  · rintro ⟨h, hfolder, hname⟩
    constructor
    · intro q hq hne
      rcases List.prefix_concat_iff.mp hq with rfl | hq
      · exact absurd rfl hne
      · by_cases heq : q = p
        · rw [heq, hfolder]
        · exact h.folders q hq heq
    · intro m hm
      rcases List.mem_append.mp hm with hm | hm
      · exact h.names m hm
      · rw [List.mem_singleton.mp hm]
        exact hname

theorem leads_nil : d.Leads [] :=
  ⟨fun _ hq hne => absurd (List.prefix_nil.mp hq) hne, by simp⟩

/-- Something is found at a place if it stands there and the way there is open. -/
theorem find_eq_ok_iff : d.find p = .ok n ↔ d.Leads p ∧ d.node? p = some n := by
  -- by the last name, for the folder around a place is found before the place
  induction p using List.reverseRecOn generalizing n with
  | nil =>
      show Except.ok FileNode.folder = Except.ok n ↔ _ ∧ some FileNode.folder = some n
      simp [leads_nil]
  | append_singleton p name ih =>
      rw [leads_concat]
      constructor
      · intro h
        have hfolder : d.find p = .ok .folder := seek_of_seek_concat h
        rw [find_concat hfolder] at h
        obtain ⟨hleads, hnode⟩ := ih.mp hfolder
        split at h
        · cases h
        · next hname =>
          split at h
          · cases h
          · next hn =>
            cases h
            exact ⟨⟨hleads, hnode, hname⟩, hn⟩
      · rintro ⟨⟨hleads, hnode, hname⟩, hn⟩
        rw [find_concat (ih.mpr ⟨hleads, hnode⟩), if_neg hname, hn]

theorem Leads.congr (h : d.Leads p) (hsame : ∀ q, q <+: p → q ≠ p → d'.node? q = d.node? q) :
    d'.Leads p :=
  ⟨fun q hq hne => (hsame q hq hne).trans (h.folders q hq hne), h.names⟩

theorem find_of_same (h : d.find p = .ok n) (hsame : ∀ q, q <+: p → d'.node? q = d.node? q) :
    d'.find p = .ok n := by
  obtain ⟨hleads, hnode⟩ := find_eq_ok_iff.mp h
  exact find_eq_ok_iff.mpr
    ⟨hleads.congr fun q hq _ => hsame q hq, (hsame p List.prefix_rfl).trans hnode⟩

/-! ## Contents -/

/-- The content of the file at a place, if there is one. -/
def content? (d : Disk) (p : Place) : Option Bytes :=
  match d.find p with
  | .ok (.file content) => some content
  | _ => none

theorem content?_eq_some_iff {content : Bytes} :
    d.content? p = some content ↔ d.Leads p ∧ d.node? p = some (.file content) := by
  rw [← find_eq_ok_iff]
  unfold content?
  split <;> simp_all

theorem content?_congr (hsame : ∀ q, q <+: p → d'.node? q = d.node? q) :
    d'.content? p = d.content? p := by
  refine Option.ext fun content => ?_
  rw [content?_eq_some_iff, content?_eq_some_iff, hsame p List.prefix_rfl]
  exact and_congr_left fun _ => ⟨fun h => h.congr fun q hq _ => (hsame q hq).symm,
    fun h => h.congr fun q hq _ => hsame q hq⟩

/-- Everything lies in folders that are there. -/
def IsTree (d : Disk) : Prop :=
  ∀ e ∈ d.nodes, ∀ k, k < e.1.length → d.node? (e.1.take k) = some .folder

theorem IsTree.node?_around (h : d.IsTree) (hn : d.node? p = some n) (hq : q <+: p) (hne : q ≠ p) :
    d.node? q = some .folder := by
  obtain ⟨rest, rfl⟩ := hq
  have hp : q ++ rest ≠ [] := by
    intro hnil
    simp_all
  rw [node?_of_ne_nil hp, List.lookup_eq_some_iff] at hn
  obtain ⟨l₁, l₂, hnodes, -⟩ := hn
  have hlength : 0 < rest.length := by
    rw [List.length_pos_iff]
    rintro rfl
    simp at hne
  have hfolder := h (q ++ rest, n) (by rw [hnodes]; simp) q.length (by simpa using hlength)
  simpa using hfolder

theorem mem_nodes_put {e : Place × FileNode} (h : e ∈ (d.put p n).nodes) : e.1 = p ∨ e ∈ d.nodes := by
  unfold put at h
  split at h
  · obtain ⟨e', he', heq⟩ := List.mem_map.mp h
    split at heq
    · exact .inl (heq ▸ rfl)
    · exact .inr (heq ▸ he')
  · rcases List.mem_append.mp h with h | h
    · exact .inr h
    · exact .inl (by rw [List.mem_singleton.mp h])

/-- Something is put into a folder that is there, and no file in place of a folder. -/
theorem IsTree.put (h : d.IsTree) (hnil : p ≠ []) (hp : d.Leads p)
    (hn : d.node? p = some .folder → n = .folder) : (d.put p n).IsTree := by
  intro e he k hk
  rw [node?_put hnil]
  rcases mem_nodes_put he with rfl | he
  · have hne : e.1.take k ≠ e.1 := by
      intro heq
      have hlength := congrArg List.length heq
      rw [List.length_take] at hlength
      omega
    rw [if_neg hne]
    exact hp.folders _ (List.take_prefix k e.1) hne
  · have hfolder := h e he k hk
    split
    · next heq => rw [hn (heq ▸ hfolder)]
    · exact hfolder

theorem IsTree.remove (h : d.IsTree) : (d.remove p).IsTree := by
  intro e he k hk
  obtain ⟨he, hwithin⟩ := List.mem_filter.mp he
  by_cases hnil : e.1.take k = []
  · rw [hnil]
    rfl
  · rw [node?_remove hnil, if_neg, h e he k hk]
    intro hin
    have hprefix := (List.isPrefixOf_iff_prefix.mp hin).trans (List.take_prefix k e.1)
    have hall : Path.isWithin p e.1 := List.isPrefixOf_iff_prefix.mpr hprefix
    simp [hall] at hwithin

/-- Only folders have come, where nothing was. -/
structure Grows (d d' : Disk) : Prop where
  nodes : ∀ q, d'.node? q = d.node? q ∨ d.node? q = none ∧ d'.node? q = some .folder
  tree : d.IsTree → d'.IsTree

theorem Grows.refl (d : Disk) : Grows d d := ⟨fun _ => .inl rfl, id⟩

theorem Grows.trans {d'' : Disk} (h : Grows d d') (h' : Grows d' d'') : Grows d d'' := by
  refine ⟨fun q => ?_, h'.tree ∘ h.tree⟩
  rcases h.nodes q with heq | ⟨hnone, hfolder⟩
  · rw [← heq]
    exact h'.nodes q
  · rcases h'.nodes q with heq' | ⟨hnone', -⟩
    · exact .inr ⟨hnone, heq'.trans hfolder⟩
    · rw [hnone'] at hfolder
      cases hfolder

theorem Grows.node?_eq (h : Grows d d') (hn : d.node? p = some n) : d'.node? p = some n := by
  rcases h.nodes p with heq | ⟨hnone, -⟩
  · rw [heq, hn]
  · rw [hnone] at hn
    cases hn

/-- No file comes to be found by folders that come. -/
theorem Grows.content?_eq (h : Grows d d') (htree : d.IsTree) : d'.content? p = d.content? p := by
  refine Option.ext fun content => ?_
  rw [content?_eq_some_iff, content?_eq_some_iff]
  constructor
  · -- a file that is found now was there before, and in a tree so were the folders around it
    rintro ⟨hleads, hfile⟩
    have hfile : d.node? p = some (.file content) := by
      rcases h.nodes p with heq | ⟨-, hfolder⟩
      · rw [← heq, hfile]
      · rw [hfolder] at hfile
        cases hfile
    exact ⟨⟨fun q hq hne => htree.node?_around hfile hq hne, hleads.names⟩, hfile⟩
  · rintro ⟨hleads, hfile⟩
    exact ⟨⟨fun q hq hne => h.node?_eq (hleads.folders q hq hne), hleads.names⟩, h.node?_eq hfile⟩

/-! ## Making folders -/

theorem grows_put_folder (hleads : d.Leads p) (h : d.node? p = none) : Grows d (d.put p .folder) := by
  have hp : p ≠ [] := by
    rintro rfl
    cases h
  refine ⟨fun q => ?_, fun htree => htree.put hp hleads fun _ => rfl⟩
  rw [node?_put hp]
  split
  · next heq => exact .inr ⟨heq ▸ h, rfl⟩
  · exact .inl rfl

/-- Folders that are made are there afterwards, and nothing else has changed. -/
theorem makeFolders_spec (names : List String) (h : d.find folder = .ok .folder) :
    Grows d (resultOf (makeFolders folder names) d).2 ∧
      ((resultOf (makeFolders folder names) d).1 = .ok ⟨⟩ →
        (resultOf (makeFolders folder names) d).2.find (folder ++ names) = .ok .folder) := by
  induction names generalizing folder d with
  | nil =>
      rw [List.append_nil]
      exact ⟨.refl d, fun _ => h⟩
  | cons name names ih =>
      unfold makeFolders
      split
      · exact ⟨.refl d, fun hok => nomatch hok⟩
      · next hname =>
        obtain ⟨hleads, hfolder⟩ := find_eq_ok_iff.mp h
        have hleads' : d.Leads (folder ++ [name]) := leads_concat.mpr ⟨hleads, hfolder, hname⟩
        -- the folder that is met or made is the one in which the others are made
        have hsplit : folder ++ name :: names = folder ++ [name] ++ names := List.append_cons ..
        rw [resultOf_bind, resultOf_get, hsplit]
        dsimp only
        split
        · next hnode => exact ih (find_eq_ok_iff.mpr ⟨hleads', hnode⟩)
        · exact ⟨.refl d, fun hok => nomatch hok⟩
        · next hnone =>
          rw [resultOf_bind, resultOf_modify]
          have hgrows := grows_put_folder hleads' hnone
          have hmade : (d.put (folder ++ [name]) .folder).find (folder ++ [name]) = .ok .folder := by
            refine find_eq_ok_iff.mpr ⟨hleads'.congr fun q hq hne => ?_, ?_⟩
            · rw [hleads'.folders q hq hne]
              exact hgrows.node?_eq (hleads'.folders q hq hne)
            · rw [node?_put (by simp), if_pos rfl]
          obtain ⟨hrest, hfound⟩ := ih hmade
          exact ⟨hgrows.trans hrest, hfound⟩

theorem makeFolder_spec {result : Except Failure PUnit}
    (h : resultOf (makeFolder p) d = (result, d')) :
    Grows d d' ∧ (result = .ok ⟨⟩ → d'.find p = .ok .folder) := by
  have hspec := makeFolders_spec p (rfl : d.find [] = .ok .folder)
  have hmade : resultOf (makeFolders [] p) d = (result, d') := h
  rwa [hmade] at hspec

/-- Folders that are there are not made. -/
theorem makeFolders_of_seek (h : d.seek folder names = .ok .folder) :
    resultOf (makeFolders folder names) d = (.ok ⟨⟩, d) := by
  induction names generalizing folder with
  | nil => rfl
  | cons name names ih =>
      rw [seek] at h
      rw [makeFolders]
      split at h
      · cases h
      · next hname =>
        rw [if_neg hname, resultOf_bind, resultOf_get]
        dsimp only
        split at h
        · cases h
        · next hnode =>
          rw [hnode]
          exact ih h
        · split at h <;> cases h

theorem resultOf_look_of_ok (h : d.find p = .ok n) : resultOf (look p) d = (.ok (some n), d) := by
  unfold look
  rw [resultOf_bind, resultOf_get]
  dsimp only
  rw [h]
  rfl

/-! ## Writing and moving files -/

/-- A file may be put at a place. -/
def Takes (d : Disk) (p : Place) : Prop :=
  (∃ content, d.find p = .ok (.file content)) ∨ d.find p = .error .notFound

theorem Takes.find_ne (h : d.Takes p) :
    d.find p ≠ .ok .folder ∧ d.find p ≠ .error .nameTooLong := by
  rcases h with ⟨content, h⟩ | h
  · rw [h]
    exact ⟨by simp, by simp⟩
  · rw [h]
    exact ⟨by simp, by simp⟩

/-- The top folder takes no file. -/
theorem Takes.ne_nil (h : d.Takes p) : p ≠ [] := by
  rintro rfl
  exact h.find_ne.1 rfl

theorem Takes.node?_ne_folder (h : d.Takes p) (hleads : d.Leads p) : d.node? p ≠ some .folder :=
  fun hnode => h.find_ne.1 (find_eq_ok_iff.mpr ⟨hleads, hnode⟩)

/-- No name that a file may be put under is too long. -/
theorem Takes.leads (h : d.Takes (p ++ [name])) (hfolder : d.find p = .ok .folder) :
    d.Leads (p ++ [name]) := by
  obtain ⟨hleads, hnode⟩ := find_eq_ok_iff.mp hfolder
  refine leads_concat.mpr ⟨hleads, hnode, fun hlong => h.find_ne.2 ?_⟩
  rw [find_concat hfolder, if_pos hlong]

theorem IsTree.put_file (htree : d.IsTree) (hfolder : d.find p = .ok .folder)
    (h : d.Takes (p ++ [name])) (content : Bytes) : (d.put (p ++ [name]) (.file content)).IsTree := by
  have hleads := h.leads hfolder
  exact htree.put (by simp) hleads fun hnode => absurd hnode (h.node?_ne_folder hleads)

theorem writeFile_cases (d : Disk) (p : Place) (content : Bytes) :
    d.Takes p ∧ resultOf (writeFile p content) d = (.ok ⟨⟩, d.put p (.file content)) ∨
      ∃ e, resultOf (writeFile p content) d = (.error e, d) := by
  unfold writeFile
  rw [resultOf_bind, resultOf_get]
  dsimp only
  split
  · exact .inr ⟨_, rfl⟩
  · next heq => exact .inl ⟨.inl ⟨_, heq⟩, rfl⟩
  · next heq => exact .inl ⟨.inr heq, rfl⟩
  · exact .inr ⟨_, rfl⟩

theorem writeFile_of_takes (h : d.Takes p) (content : Bytes) :
    resultOf (writeFile p content) d = (.ok ⟨⟩, d.put p (.file content)) := by
  unfold writeFile
  rw [resultOf_bind, resultOf_get]
  dsimp only
  rcases h with ⟨old, hold⟩ | hnone
  · rw [hold]
    rfl
  · rw [hnone]
    rfl

theorem moveFile_cases (d : Disk) (p q : Place) :
    (∃ content, d.node? p = some (.file content) ∧ d.Takes q ∧
        resultOf (moveFile p q) d = (.ok ⟨⟩, (d.remove p).put q (.file content))) ∨
      ∃ e, resultOf (moveFile p q) d = (.error e, d) := by
  unfold moveFile
  rw [resultOf_bind, resultOf_get]
  dsimp only
  rw [resultOf_bind, resultOf_get]
  dsimp only
  split
  · exact .inr ⟨_, rfl⟩
  · next hnode heq => exact .inl ⟨_, hnode, .inl ⟨_, heq⟩, rfl⟩
  · next hnode heq => exact .inl ⟨_, hnode, .inr heq, rfl⟩
  · exact .inr ⟨_, rfl⟩
  · exact .inr ⟨_, rfl⟩

theorem moveFile_of_takes {content : Bytes} (hp : d.node? p = some (.file content)) (h : d.Takes q) :
    resultOf (moveFile p q) d = (.ok ⟨⟩, (d.remove p).put q (.file content)) := by
  unfold moveFile
  rw [resultOf_bind, resultOf_get]
  dsimp only
  rw [resultOf_bind, resultOf_get]
  dsimp only
  rw [hp]
  rcases h with ⟨old, hold⟩ | hnone
  · rw [hold]
    rfl
  · rw [hnone]
    rfl

/-- A file is not moved in place of a folder. -/
theorem moveFile_of_folder {content : Bytes} (hp : d.node? p = some (.file content))
    (h : d.find q = .ok .folder) :
    resultOf (moveFile p q) d = (.error (.system .isFolder), d) := by
  unfold moveFile
  rw [resultOf_bind, resultOf_get]
  dsimp only
  rw [resultOf_bind, resultOf_get]
  dsimp only
  rw [hp, h]
  rfl

end Conformity.Disk

namespace Conformity.Storage

open Conformity.Disk
open Conformity.Path (Place)

variable {s : Storage} {d d' : Disk} {p place : Place} {path : String} {content : Bytes}

theorem resultOf_read_of_find (hplace : s.place path = .ok place)
    (h : d.find place = .ok (.file content)) :
    resultOf (s.read path) d = (.ok content, d) := by
  unfold read placeOf
  rw [hplace]
  show resultOf (Disk.look place >>= _) d = _
  rw [resultOf_bind, resultOf_look_of_ok h]
  rfl

/-! ## Writing an asset -/

theorem besides_ne_nil (p : Place) : besides p ≠ [] := by simp [besides]

theorem besides_concat (p : Place) (name : String) : besides (p ++ [name]) = p ++ [name ++ ".tmp"] := by
  simp [besides]

/-- The temporary file does not stand on the way to the asset. -/
theorem not_besides_prefix (hp : p ≠ []) : ¬ besides p <+: p := by
  rcases List.eq_nil_or_concat p with rfl | ⟨q, name, rfl⟩
  · exact absurd rfl hp
  · rw [List.concat_eq_append, besides_concat]
    intro h
    have heq := h.eq_of_length (by simp)
    simp at heq

theorem resultOf_write (hplace : s.place path = .ok place) (hne : place ≠ []) :
    resultOf (s.write path content) d = resultOf (do
      Disk.makeFolder place.dropLast
      Disk.writeFile (besides place) content
      Disk.moveFile (besides place) place) d := by
  have hempty : place.isEmpty = false := by simpa using hne
  unfold write placeOf
  rw [hplace]
  show resultOf (do
    Disk.makeFolder place.dropLast
    if place.isEmpty then throw (.refused .nameless)
    else
      Disk.writeFile (besides place) content
      Disk.moveFile (besides place) place) d = _
  rw [hempty]
  rfl

/-- The top folder is no place for an asset. -/
theorem resultOf_write_top (hplace : s.place path = .ok []) :
    resultOf (s.write path content) d = (.error (.refused .nameless), d) := by
  unfold write placeOf
  rw [hplace]
  rfl

/-- How a write ends: on the way to the folder of the asset, with the temporary file, or with the
asset at its place. -/
inductive WriteEnds (d : Disk) (place : Place) (content : Bytes) : Except Failure PUnit × Disk → Prop
  | folders {e : Failure} {d₁ : Disk} : Grows d d₁ → WriteEnds d place content (.error e, d₁)
  | temporary {e : Failure} {d₁ : Disk} : Grows d d₁ → d₁.find place.dropLast = .ok .folder →
      d₁.Takes (besides place) →
        WriteEnds d place content (.error e, d₁.put (besides place) (.file content))
  | moved {d₁ : Disk} : Grows d d₁ → d₁.find place.dropLast = .ok .folder →
      d₁.Takes (besides place) → (d₁.put (besides place) (.file content)).Takes place →
        WriteEnds d place content (.ok ⟨⟩,
          ((d₁.put (besides place) (.file content)).remove (besides place)).put place (.file content))

theorem writeEnds (hplace : s.place path = .ok place) (d : Disk) (content : Bytes) :
    WriteEnds d place content (resultOf (s.write path content) d) := by
  rcases eq_or_ne place [] with rfl | hne
  · rw [resultOf_write_top hplace]
    exact .folders (.refl d)
  rw [resultOf_write hplace hne, resultOf_bind]
  rcases hmade : resultOf (makeFolder place.dropLast) d with ⟨result, d₁⟩
  obtain ⟨hgrows, hfolder⟩ := makeFolder_spec hmade
  cases result with
  | error e => exact .folders hgrows
  | ok =>
      dsimp only
      rw [resultOf_bind]
      rcases writeFile_cases d₁ (besides place) content with ⟨htakes, hwrite⟩ | ⟨e, hwrite⟩
      · rw [hwrite]
        dsimp only
        rcases moveFile_cases (d₁.put (besides place) (.file content)) (besides place) place with
          ⟨moved, hmoved, htakes', hmove⟩ | ⟨e, hmove⟩
        · rw [node?_put (besides_ne_nil place), if_pos rfl] at hmoved
          cases hmoved
          rw [hmove]
          exact .moved hgrows (hfolder rfl) htakes htakes'
        · rw [hmove]
          exact .temporary hgrows (hfolder rfl) htakes
      · rw [hwrite]
        exact .folders hgrows

/-- The temporary file changes nothing at the place of the asset. -/
theorem content?_put_besides (n : FileNode) :
    (d.put (besides place) n).content? place = d.content? place := by
  by_cases hplace : place = []
  · rw [hplace]
    rfl
  · refine content?_congr fun q hq => ?_
    rw [node?_put (besides_ne_nil place), if_neg]
    rintro rfl
    exact not_besides_prefix hplace hq

/-- What a failed write leaves at its place is what was there. -/
theorem content?_write_of_error {e : Failure} (htree : d.IsTree) (hplace : s.place path = .ok place)
    (h : resultOf (s.write path content) d = (.error e, d')) :
    d'.content? place = d.content? place := by
  have hends := writeEnds hplace d content
  rw [h] at hends
  cases hends with
  | folders hgrows => exact hgrows.content?_eq htree
  | temporary hgrows => rw [content?_put_besides, hgrows.content?_eq htree]

/-- The folder of an asset stays while the asset is put beside its place and moved there. -/
theorem find_besides (name : String) (h : d.find p = .ok .folder) (content : Bytes) :
    (d.put (p ++ [name]) (.file content)).find p = .ok .folder :=
  find_of_same h fun _ hq => node?_put_below name _ hq

theorem find_remove_besides (name : String) (h : d.find p = .ok .folder) :
    (d.remove (p ++ [name])).find p = .ok .folder :=
  find_of_same h fun _ hq => node?_remove_below name hq

/-- What is written is found at its place. -/
theorem content?_write_of_ok (hplace : s.place path = .ok place)
    (h : resultOf (s.write path content) d = (.ok ⟨⟩, d')) : d'.content? place = some content := by
  have hends := writeEnds hplace d content
  rw [h] at hends
  cases hends with
  | moved hgrows hfolder hbesides htakes =>
      obtain ⟨p, name, rfl⟩ := (List.eq_nil_or_concat' place).resolve_left htakes.ne_nil
      rw [besides_concat] at *
      rw [List.dropLast_concat] at hfolder
      have hbeside := find_besides (name ++ ".tmp") hfolder content
      have hleads := htakes.leads hbeside
      have hmoved := find_besides name (find_remove_besides (name ++ ".tmp") hbeside) content
      refine content?_eq_some_iff.mpr ⟨leads_concat.mpr ⟨(find_eq_ok_iff.mp hmoved).1,
        (find_eq_ok_iff.mp hmoved).2, (leads_concat.mp hleads).2.2⟩, ?_⟩
      rw [node?_put (by simp), if_pos rfl]

/-- After a write the file system takes a temporary file again. -/
theorem takes_besides_of_write (hplace : s.place path = .ok place)
    (h : resultOf (s.write path content) d = (.ok ⟨⟩, d')) : d'.Takes (besides place) := by
  have hends := writeEnds hplace d content
  rw [h] at hends
  cases hends with
  | moved hgrows hfolder hbesides htakes =>
      obtain ⟨p, name, rfl⟩ := (List.eq_nil_or_concat' place).resolve_left htakes.ne_nil
      rw [besides_concat] at *
      rw [List.dropLast_concat] at hfolder
      have hbeside := find_besides (name ++ ".tmp") hfolder content
      have hmoved := find_besides name (find_remove_besides (name ++ ".tmp") hbeside) content
      have hname := (leads_concat.mp (hbesides.leads hfolder)).2.2
      have hother : p ++ [name ++ ".tmp"] ≠ p ++ [name] := by simp
      have hself : Path.isWithin (p ++ [name ++ ".tmp"]) (p ++ [name ++ ".tmp"]) :=
        List.isPrefixOf_iff_prefix.mpr (List.prefix_refl _)
      refine .inr ?_
      rw [find_concat hmoved, if_neg hname, node?_put (by simp), if_neg hother,
        node?_remove (by simp), if_pos hself]

theorem node?_remove_besides {q : Place} (hq : q <+: place) :
    (d.remove (besides place)).node? q = d.node? q := by
  by_cases hnil : q = []
  · rw [hnil]
    rfl
  · have hplace : place ≠ [] := fun h => hnil (List.prefix_nil.mp (h ▸ hq))
    rw [node?_remove hnil, if_neg]
    intro hwithin
    exact not_besides_prefix hplace ((List.isPrefixOf_iff_prefix.mp hwithin).trans hq)

/-- An asset that is there can be written if the file system takes the file beside it. -/
theorem exists_write_eq_ok {old : Bytes} (hplace : s.place path = .ok place)
    (hfile : d.content? place = some old) (htakes : d.Takes (besides place)) (content : Bytes) :
    ∃ d', resultOf (s.write path content) d = (.ok ⟨⟩, d') := by
  rw [content?_eq_some_iff, ← find_eq_ok_iff] at hfile
  have hne : place ≠ [] := by
    rintro rfl
    cases hfile
  have hfolder : d.seek [] place.dropLast = .ok .folder := by
    obtain ⟨p, name, rfl⟩ := (List.eq_nil_or_concat' place).resolve_left hne
    rw [List.dropLast_concat]
    exact seek_of_seek_concat hfile
  have hmoved : (d.put (besides place) (.file content)).find place = .ok (.file old) := by
    rw [find_eq_ok_iff, ← content?_eq_some_iff, content?_put_besides, content?_eq_some_iff,
      ← find_eq_ok_iff, hfile]
  have hnode : (d.put (besides place) (.file content)).node? (besides place) = some (.file content) := by
    rw [node?_put (besides_ne_nil place), if_pos rfl]
  -- the folders are there, the temporary file is taken, and the move finds both files
  rw [resultOf_write hplace hne, resultOf_bind, makeFolder, makeFolders_of_seek hfolder]
  dsimp only
  rw [resultOf_bind, writeFile_of_takes htakes]
  dsimp only
  rw [moveFile_of_takes hnode (.inl ⟨old, hmoved⟩)]
  exact ⟨_, rfl⟩

/-- A write leaves everything in folders that are there. -/
theorem isTree_write (htree : d.IsTree) (hplace : s.place path = .ok place) (content : Bytes) :
    (resultOf (s.write path content) d).2.IsTree := by
  have hends := writeEnds hplace d content
  revert hends
  rcases resultOf (s.write path content) d with ⟨result, d'⟩
  intro hends
  cases hends with
  | folders hgrows => exact hgrows.tree htree
  | temporary hgrows hfolder hbesides => exact (hgrows.tree htree).put_file hfolder hbesides content
  | @moved d₁ hgrows hfolder hbesides htakes =>
      have hput : (d₁.put (besides place) (.file content)).IsTree :=
        (hgrows.tree htree).put_file hfolder hbesides content
      obtain ⟨p, name, rfl⟩ := (List.eq_nil_or_concat' place).resolve_left htakes.ne_nil
      have hbeside : (d₁.put (besides (p ++ [name])) (.file content)).find p = .ok .folder := by
        rw [List.dropLast_concat] at hfolder
        rw [besides_concat]
        exact find_besides (name ++ ".tmp") hfolder content
      have hleads := htakes.leads hbeside
      refine hput.remove.put (by simp)
        (hleads.congr fun q hq _ => node?_remove_besides hq) fun hnode => ?_
      rw [node?_remove_besides List.prefix_rfl] at hnode
      exact absurd hnode (htakes.node?_ne_folder hleads)

end Conformity.Storage

namespace Conformity

open Conformity.Path (Place)

namespace Disk

variable {d : Disk} {folder place : Place} {names : List String}

/-! ## Failures in looking -/

/-- No name on the way to a place is too long. -/
def HasNames (place : Place) : Prop := ∀ name ∈ place, isTooLong name = false

theorem seek_error_cases (short : HasNames names) {e : SystemFault}
    (h : d.seek folder names = .error e) : e = .notFound ∨ e = .notFolder := by
  induction names generalizing folder with
  | nil => cases h
  | cons name names ih =>
      obtain ⟨hname, hnames⟩ := List.forall_mem_cons.mp short
      unfold seek at h
      rw [hname] at h
      split at h
      · contradiction
      · split at h
        · cases h
          exact .inl rfl
        · exact ih hnames h
        · split at h
          · cases h
          · cases h
            exact .inr rfl

theorem resultOf_isFile (short : HasNames place) (d : Disk) :
    resultOf (isFile place) d = (.ok (d.content? place).isSome, d) := by
  unfold isFile look content?
  rw [resultOf_bind, resultOf_bind, resultOf_get]
  dsimp only
  cases hfind : d.find place with
  | ok node => cases node <;> rfl
  | error e =>
      rcases seek_error_cases short hfind with rfl | rfl <;> rfl

/-! ## Failures in writing -/

theorem failsOnly_makeFolders (folder : Place) (names : List String) :
    FailsOnly Failure.isSystem (makeFolders folder names) := by
  induction names generalizing folder with
  | nil => exact .pure _
  | cons name names ih =>
      unfold makeFolders
      split
      · exact .throw rfl
      · refine .bind .get fun d => ?_
        split
        · exact ih _
        · exact .throw rfl
        · exact .bind (.update _) fun _ => ih _

theorem failsOnly_writeFile (place : Place) (content : Bytes) :
    FailsOnly Failure.isSystem (writeFile place content) := by
  unfold writeFile
  refine .bind .get fun d => ?_
  split
  · exact .throw rfl
  · exact .update _
  · exact .update _
  · exact .throw rfl

end Disk

namespace Storage

variable {s : Storage} {folder : String} {audits : Place}

/-- A generated folder that has a place can be written into, unless the file system refuses it. -/
theorem failsOnly_writeGenerated (hplace : s.place (s.generatedFolder ++ "/" ++ folder) = .ok audits)
    {name : String} (hname : (name.toList.any fun c => c.toNat == 0) = false) (content : Bytes) :
    FailsOnly Failure.isSystem (s.writeGenerated folder name content) := by
  unfold writeGenerated generatedPlace placeOf
  rw [hplace]
  refine .bind (.pure _) fun place => .bind (Disk.failsOnly_makeFolders [] place) fun _ => ?_
  rw [hname]
  split
  · contradiction
  · split
    · exact .throw rfl
    · split
      · exact .throw rfl
      · exact .bind (Disk.failsOnly_writeFile _ _) fun _ => .pure _

/-- A file for audits is put into its folder, or folders are made at most. -/
theorem writeGenerated_cases (hplace : s.place (s.generatedFolder ++ "/" ++ folder) = .ok audits)
    (name : String) (content : Bytes) (d : Disk) : ∃ d₁, Disk.Grows d d₁ ∧
      ((∃ e, resultOf (s.writeGenerated folder name content) d = (.error e, d₁)) ∨
        ∃ last, d₁.find audits = .ok .folder ∧ d₁.Takes (audits ++ [last]) ∧
          resultOf (s.writeGenerated folder name content) d =
            (.ok (audits ++ [last]), d₁.put (audits ++ [last]) (.file content))) := by
  unfold writeGenerated generatedPlace placeOf
  rw [hplace]
  show ∃ d₁, Disk.Grows d d₁ ∧
    ((∃ e, resultOf (Disk.makeFolder audits >>= _) d = (.error e, d₁)) ∨
      ∃ last, d₁.find audits = .ok .folder ∧ d₁.Takes (audits ++ [last]) ∧
        resultOf (Disk.makeFolder audits >>= _) d = _)
  rw [resultOf_bind]
  rcases hmade : resultOf (Disk.makeFolder audits) d with ⟨result, d₁⟩
  obtain ⟨hgrows, hfolder⟩ := Disk.makeFolder_spec hmade
  refine ⟨d₁, hgrows, ?_⟩
  cases result with
  | error e => exact .inl ⟨e, rfl⟩
  | ok =>
      dsimp only
      split
      · exact .inl ⟨_, rfl⟩
      · split
        · exact .inl ⟨_, rfl⟩
        · next last _ =>
          split
          · exact .inl ⟨_, rfl⟩
          · rw [resultOf_bind]
            rcases Disk.writeFile_cases d₁ (audits ++ [last]) content with
              ⟨htakes, hwrite⟩ | ⟨e, hwrite⟩
            · rw [hwrite]
              exact .inr ⟨last, hfolder rfl, htakes, rfl⟩
            · rw [hwrite]
              exact .inl ⟨e, rfl⟩

/-- A generated folder that can be cleared has a place. -/
theorem exists_place_of_clearGenerated {d : Disk}
    (h : (resultOf (s.clearGenerated folder) d).1 = .ok ⟨⟩) :
    ∃ audits, s.place (s.generatedFolder ++ "/" ++ folder) = .ok audits := by
  unfold clearGenerated generatedPlace placeOf at h
  cases hplace : s.place (s.generatedFolder ++ "/" ++ folder) with
  | ok audits => exact ⟨audits, rfl⟩
  | error e =>
      rw [hplace] at h
      cases h

end Storage

end Conformity
