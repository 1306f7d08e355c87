import Conformity.Proofs.Storage.Disk
import Conformity.Proofs.Text.Utf8

/-!
# What a write leaves alone

An asset is first written to a temporary file beside its place, whose name is that of the asset with an
ending. A write touches nothing but the asset exactly if the temporary file is in nobody's way
(`Storage.touchesOnly_iff`): a file that has its name already is overwritten and moved away, and at the
place of a folder the temporary file stays behind, even outside the root.
-/

namespace Conformity

open Conformity.Path (Place)

namespace Disk

variable {d d' : Disk} {p q folder : Place} {n : FileNode} {name : String} {names : List String}
  {content old : Bytes}

/-! ## Files and what lies below them -/

/-- No file is found below a place that is no folder. -/
theorem content?_below (hn : d.node? p ≠ some .folder) (hq : p <+: q) (hne : q ≠ p) :
    d.content? q = none := by
  refine Option.eq_none_iff_forall_ne_some.mpr fun content hcontent => ?_
  exact hn ((content?_eq_some_iff.mp hcontent).1.folders p hq hne.symm)

/-- A file that is put where no folder stands changes nothing elsewhere. -/
theorem content?_put_of_ne (hp : p ≠ []) (hn : d.node? p ≠ some .folder) (hne : q ≠ p) :
    (d.put p (.file content)).content? q = d.content? q := by
  by_cases hq : p <+: q
  · have hput : (d.put p (.file content)).node? p ≠ some .folder := by
      rw [node?_put hp, if_pos rfl]
      simp
    rw [content?_below hput hq hne, content?_below hn hq hne]
  · refine content?_congr fun r hr => ?_
    rw [node?_put hp, if_neg]
    rintro rfl
    exact hq hr

theorem content?_put_self (hp : p ≠ []) (hleads : d.Leads p) :
    (d.put p (.file content)).content? p = some content := by
  refine content?_eq_some_iff.mpr ⟨hleads.congr fun q _ hne => ?_, ?_⟩
  · rw [node?_put hp, if_neg hne]
  · rw [node?_put hp, if_pos rfl]

/-- A file that is removed is gone, and nothing else. -/
theorem content?_remove (hp : p ≠ []) (hn : d.node? p ≠ some .folder) :
    (d.remove p).content? q = if q = p then none else d.content? q := by
  have hgone : ∀ r, p <+: r → (d.remove p).node? r = none := by
    intro r hr
    have hr' : r ≠ [] := fun hnil => hp (List.prefix_nil.mp (hnil ▸ hr))
    have hwithin : Path.isWithin p r := List.isPrefixOf_iff_prefix.mpr hr
    rw [node?_remove hr', if_pos hwithin]
  split
  · next heq =>
    refine Option.eq_none_iff_forall_ne_some.mpr fun content hcontent => ?_
    rw [heq, content?_eq_some_iff, hgone p List.prefix_rfl] at hcontent
    cases hcontent.2
  · next hne =>
    by_cases hq : p <+: q
    · rw [content?_below (by rw [hgone p List.prefix_rfl]; simp) hq hne, content?_below hn hq hne]
    · refine content?_congr fun r hr => ?_
      by_cases hnil : r = []
      · rw [hnil]
        rfl
      · rw [node?_remove hnil, if_neg]
        intro hwithin
        exact hq ((List.isPrefixOf_iff_prefix.mp hwithin).trans hr)

/-! ## Folders on the way -/

/-- Folders are made on the way to a place only. -/
theorem node?_makeFolders (names : List String) (hq : ¬ q <+: folder ++ names) :
    (resultOf (makeFolders folder names) d).2.node? q = d.node? q := by
  induction names generalizing folder d with
  | nil => rfl
  | cons name names ih =>
      rw [List.append_cons] at hq
      unfold makeFolders
      split
      · rfl
      · rw [resultOf_bind, resultOf_get]
        dsimp only
        split
        · exact ih hq
        · rfl
        · rw [resultOf_bind, resultOf_modify]
          dsimp only
          rw [ih hq, node?_put (by simp), if_neg]
          rintro rfl
          exact hq (List.prefix_append _ _)

/-- The folders that are made hold no folder. -/
theorem find_ne_folder_of_makeFolder (htree : d.IsTree) (hfolder : d.find p ≠ .ok .folder)
    (hmade : resultOf (makeFolder p) d = (.ok ⟨⟩, d')) : d'.find (p ++ [name]) ≠ .ok .folder := by
  have hnode : d'.node? (p ++ [name]) = d.node? (p ++ [name]) := by
    have hsame : (resultOf (makeFolder p) d).2.node? (p ++ [name]) = d.node? (p ++ [name]) :=
      node?_makeFolders p fun hprefix => absurd hprefix.length_le (by simp)
    rwa [hmade] at hsame
  intro hfound
  obtain ⟨hleads, hnode'⟩ := find_eq_ok_iff.mp hfound
  rw [hnode] at hnode'
  -- on a tree the folder would have been there before, and `p` with it
  refine hfolder (find_eq_ok_iff.mpr ⟨⟨fun q hq hne => ?_, (leads_concat.mp hleads).1.names⟩, ?_⟩)
  · refine htree.node?_around hnode' (hq.trans (List.prefix_append p [name])) ?_
    rintro rfl
    exact absurd hq.length_le (by simp)
  · exact htree.node?_around hnode' (List.prefix_append p [name]) (by simp)

theorem resultOf_makeFolder_of_find (h : d.find p = .ok .folder) :
    resultOf (makeFolder p) d = (.ok ⟨⟩, d) := makeFolders_of_seek h

/-! ## Names -/

theorem bytesOf_append (s t : String) : bytesOf (s ++ t) = bytesOf s ++ bytesOf t := by
  rw [Text.bytesOf_eq_encode, Text.bytesOf_eq_encode, Text.bytesOf_eq_encode, String.toList_append]
  exact List.flatMap_append

theorem not_isTooLong_of_append {s t : String} (h : ¬ isTooLong (s ++ t)) : ¬ isTooLong s := by
  unfold isTooLong at h ⊢
  rw [bytesOf_append, List.length_append] at h
  simp only [decide_eq_true_eq] at h ⊢
  omega

/-- Where a name is not too long, there is a folder, or a file may be put. -/
theorem find_folder_or_takes (hfolder : d.find p = .ok .folder) (hname : ¬ isTooLong name) :
    d.find (p ++ [name]) = .ok .folder ∨ d.Takes (p ++ [name]) := by
  rw [Takes, find_concat hfolder, if_neg hname]
  split
  · exact .inr (.inr rfl)
  · next n hn =>
    cases n with
    | folder => exact .inl rfl
    | file content => exact .inr (.inl ⟨content, rfl⟩)

end Disk

namespace Storage

open Conformity.Disk

variable {s : Storage} {d d' : Disk} {p place : Place} {name path : String} {content : Bytes}

/-! ## The temporary file -/

/-- The temporary file is in nobody's way. Beside a folder, it must not be made at all or be there
already with that content, for it stays; beside anything else, its name must be free. -/
structure Spares (d : Disk) (place : Place) (content : Bytes) : Prop where
  folder : d.find place = .ok .folder →
    place = [] ∨ ¬ d.Takes (besides place) ∨ d.content? (besides place) = some content
  asset : d.find place ≠ .ok .folder → d.content? (besides place) = none

/-- What a write leaves: the files as they were, also the temporary one, or the asset. -/
inductive Leaves (d : Disk) (place : Place) (content : Bytes) : Except Failure PUnit × Disk → Prop
  | same {e : Failure} {d' : Disk} : Spares d place content →
      (∀ q, d'.content? q = d.content? q) → Leaves d place content (.error e, d')
  | temporary {e : Failure} {d' : Disk} : place ≠ [] → d.find place = .ok .folder →
      d.Takes (besides place) →
      (∀ q, d'.content? q = if q = besides place then some content else d.content? q) →
        Leaves d place content (.error e, d')
  | asset {d' : Disk} : d.find place ≠ .ok .folder →
      (∀ q, d'.content? q = if q = place then some content
        else if q = besides place then none else d.content? q) →
        Leaves d place content (.ok ⟨⟩, d')

theorem besides_ne (h : place ≠ []) : besides place ≠ place :=
  fun heq => not_besides_prefix h (heq.symm ▸ List.prefix_rfl)

/-- No temporary file is in the way where there is no folder for the asset. -/
theorem spares_of_no_folder (h : d.find p ≠ .ok .folder) : Spares d (p ++ [name]) content := by
  refine ⟨fun hfolder => absurd (seek_of_seek_concat hfolder) h, fun _ => ?_⟩
  rw [besides_concat]
  refine Option.eq_none_iff_forall_ne_some.mpr fun old hold => h ?_
  rw [content?_eq_some_iff, ← find_eq_ok_iff] at hold
  exact seek_of_seek_concat hold

/-- No temporary file is in the way where none can be made. -/
theorem spares_of_not_takes (h : ¬ d.Takes (besides place)) : Spares d place content := by
  refine ⟨fun _ => .inr (.inl h), fun _ => ?_⟩
  refine Option.eq_none_iff_forall_ne_some.mpr fun old hold => h (.inl ⟨old, ?_⟩)
  rwa [content?_eq_some_iff, ← find_eq_ok_iff] at hold

/-- What the temporary file changes. -/
theorem content?_put_temporary (hfolder : d.find p = .ok .folder) (h : d.Takes (p ++ [name]))
    (content : Bytes) (q : Place) : (d.put (p ++ [name]) (.file content)).content? q =
      if q = p ++ [name] then some content else d.content? q := by
  have hleads := h.leads hfolder
  split
  · next heq => rw [heq, content?_put_self (by simp) hleads]
  · next hne => exact content?_put_of_ne (by simp) (h.node?_ne_folder hleads) hne

theorem find_put_besides (hne : place ≠ []) (n : FileNode) :
    (d.put (besides place) n).find place = .ok .folder ↔ d.find place = .ok .folder := by
  have hsame : ∀ q, q <+: place → (d.put (besides place) n).node? q = d.node? q := by
    intro q hq
    rw [node?_put (besides_ne_nil place), if_neg]
    rintro rfl
    exact not_besides_prefix hne hq
  exact ⟨fun h => find_of_same h fun q hq => (hsame q hq).symm, fun h => find_of_same h hsame⟩

/-- What the move of the temporary file changes. -/
theorem content?_move (hfolder : d.find p = .ok .folder)
    (hnode : d.node? (besides (p ++ [name])) = some (.file content)) (h : d.Takes (p ++ [name]))
    (q : Place) : ((d.remove (besides (p ++ [name]))).put (p ++ [name]) (.file content)).content? q =
      if q = p ++ [name] then some content
      else if q = besides (p ++ [name]) then none else d.content? q := by
  have hleads := h.leads hfolder
  have hremoved : ∀ r, r <+: p ++ [name] →
      (d.remove (besides (p ++ [name]))).node? r = d.node? r := fun r hr => node?_remove_besides hr
  split
  · next heq =>
    rw [heq, content?_put_self (by simp) (hleads.congr fun r hr _ => hremoved r hr)]
  · next hne =>
    have hplace : (d.remove (besides (p ++ [name]))).node? (p ++ [name]) ≠ some .folder := by
      rw [hremoved _ List.prefix_rfl]
      exact h.node?_ne_folder hleads
    rw [content?_put_of_ne (by simp) hplace hne, content?_remove (besides_ne_nil _) (by simp [hnode])]

/-- What is left by a write into a folder that is there. -/
theorem leaves_of_folder (hfolder : d.find p = .ok .folder) (name : String) (content : Bytes) :
    Leaves d (p ++ [name]) content (resultOf (do
      Disk.writeFile (besides (p ++ [name])) content
      Disk.moveFile (besides (p ++ [name])) (p ++ [name])) d) := by
  rw [resultOf_bind]
  by_cases htakes : d.Takes (besides (p ++ [name]))
  · rw [writeFile_of_takes htakes]
    dsimp only
    have hput := content?_put_temporary hfolder (besides_concat p name ▸ htakes) content
    rw [← besides_concat] at hput
    have hfolder' := find_besides (name ++ ".tmp") hfolder content
    rw [← besides_concat] at hfolder'
    have hnode : (d.put (besides (p ++ [name])) (.file content)).node? (besides (p ++ [name])) =
        some (.file content) := by
      rw [node?_put (besides_ne_nil _), if_pos rfl]
    -- the name of the asset is shorter than that of the temporary file, which is not too long
    have hname : ¬ isTooLong name := by
      have hleads := (besides_concat p name ▸ htakes).leads hfolder
      exact not_isTooLong_of_append (leads_concat.mp hleads).2.2
    rcases find_folder_or_takes hfolder' hname with hplace | hplace
    · rw [moveFile_of_folder hnode hplace]
      exact .temporary (by simp) ((find_put_besides (by simp) _).mp hplace) htakes hput
    · rw [moveFile_of_takes hnode hplace]
      refine .asset (fun h => hplace.find_ne.1 ((find_put_besides (by simp) _).mpr h)) fun q => ?_
      rw [content?_move hfolder' hnode hplace, hput]
      by_cases hq : q = besides (p ++ [name])
      · simp only [if_pos hq]
      · simp only [if_neg hq]
  · rcases writeFile_cases d (besides (p ++ [name])) content with ⟨h, -⟩ | ⟨e, hwrite⟩
    · exact absurd h htakes
    · rw [hwrite]
      exact .same (spares_of_not_takes htakes) fun _ => rfl

/-- What a write leaves. -/
theorem leaves_write (htree : d.IsTree) (hplace : s.place path = .ok place) (content : Bytes) :
    Leaves d place content (resultOf (s.write path content) d) := by
  rcases List.eq_nil_or_concat' place with rfl | ⟨p, name, rfl⟩
  · rw [resultOf_write_top hplace]
    exact .same ⟨fun _ => .inl rfl, fun h => absurd rfl h⟩ fun _ => rfl
  rw [resultOf_write hplace (by simp), resultOf_bind, List.dropLast_concat]
  by_cases hfolder : d.find p = .ok .folder
  · rw [resultOf_makeFolder_of_find hfolder]
    exact leaves_of_folder hfolder name content
  rcases hmade : resultOf (makeFolder p) d with ⟨result, d₁⟩
  obtain ⟨hgrows, hfolder₁⟩ := makeFolder_spec hmade
  have hsame : ∀ q, d₁.content? q = d.content? q := fun q => hgrows.content?_eq htree
  cases result with
  | error e => exact .same (spares_of_no_folder hfolder) hsame
  | ok =>
      -- the folders that were made hold nothing, so that the asset comes to lie there
      have hfind : d₁.find (p ++ [name]) ≠ .ok .folder :=
        find_ne_folder_of_makeFolder htree hfolder hmade
      have hleaves := leaves_of_folder (hfolder₁ rfl) name content
      revert hleaves
      dsimp only
      generalize resultOf _ d₁ = ended
      intro hleaves
      cases hleaves with
      | same _ h => exact .same (spares_of_no_folder hfolder) fun q => (h q).trans (hsame q)
      | temporary _ h => exact absurd h hfind
      | asset _ h =>
          refine .asset (fun h => hfolder (seek_of_seek_concat h)) fun q => ?_
          rw [h q, hsame q]

/-! ## The frame of a write -/

/-- A write touches only its asset: it succeeds, and then the asset has the content and everything else
is as it was, or it fails and all files are as they were. What lies outside the root stays in any case. -/
structure TouchesOnly (s : Storage) (path : String) (content : Bytes) (d : Disk) : Prop where
  written : ∀ d', resultOf (s.write path content) d = (.ok ⟨⟩, d') →
    resultOf (s.read path) d' = (.ok content, d')
  others : ∀ d' place, resultOf (s.write path content) d = (.ok ⟨⟩, d') → s.place path = .ok place →
    ∀ q, q ≠ place → d'.content? q = d.content? q
  failed : ∀ d' e, resultOf (s.write path content) d = (.error e, d') →
    ∀ q, d'.content? q = d.content? q
  outside : ∀ q, ¬ Path.isWithin s.root q →
    (resultOf (s.write path content) d).2.content? q = d.content? q

theorem isWithin_of_place (h : s.place path = .ok place) : Path.isWithin s.root place := by
  have hbelow : Path.below? s.root path = some place := by
    unfold Storage.place at h
    split at h
    · cases h
    · split at h
      · next hbelow => rw [hbelow, Except.ok.inj h]
      · cases h
  obtain ⟨hwithin, hplace⟩ := Option.ite_none_right_eq_some.mp hbelow
  exact Option.some.inj hplace ▸ hwithin

theorem resultOf_write_of_no_place {e : Refused} (h : s.place path = .error e) :
    resultOf (s.write path content) d = (.error (.refused e), d) := by
  unfold write placeOf
  rw [h]
  rfl

/-- Where nothing changes, a failed write touches nothing. -/
theorem touchesOnly_of_error {e : Failure}
    (h : resultOf (s.write path content) d = (.error e, d'))
    (hsame : ∀ q, d'.content? q = d.content? q) : s.TouchesOnly path content d where
  written := by simp [h]
  others := by simp [h]
  failed := by
    intro d'' e' h'
    rw [h] at h'
    cases h'
    exact hsame
  outside := by
    intro q _
    rw [h]
    exact hsame q

/-- Where nothing but the asset changes, a write that succeeds touches only the asset. -/
theorem touchesOnly_of_ok (hplace : s.place path = .ok place)
    (h : resultOf (s.write path content) d = (.ok ⟨⟩, d'))
    (hothers : ∀ q, q ≠ place → d'.content? q = d.content? q) : s.TouchesOnly path content d where
  written := by
    intro d'' h'
    have hcontent := content?_write_of_ok hplace h'
    rw [content?_eq_some_iff, ← find_eq_ok_iff] at hcontent
    exact resultOf_read_of_find hplace hcontent
  others := by
    intro d'' place' h' hplace'
    rw [h] at h'
    rw [hplace] at hplace'
    cases h'
    cases hplace'
    exact hothers
  failed := by simp [h]
  outside := by
    intro q hq
    rw [h]
    refine hothers q ?_
    rintro rfl
    exact hq (isWithin_of_place hplace)

/-- A write touches only its asset exactly if its temporary file is in nobody's way. -/
theorem touchesOnly_iff (htree : d.IsTree) (path : String) (content : Bytes) :
    s.TouchesOnly path content d ↔ ∀ place, s.place path = .ok place → Spares d place content := by
  rcases hplace : s.place path with e | place
  · have hwrite : resultOf (s.write path content) d = (.error (.refused e), d) :=
      resultOf_write_of_no_place hplace
    exact ⟨fun _ => by simp, fun _ => touchesOnly_of_error hwrite fun _ => rfl⟩
  have hiff : (∀ p, (.ok place : Except Refused Place) = .ok p → Spares d p content) ↔
      Spares d place content := ⟨fun h => h place rfl, by rintro h _ ⟨⟩; exact h⟩
  rw [hiff]
  have hleaves := leaves_write htree hplace content
  rcases hwrite : resultOf (s.write path content) d with ⟨result, d'⟩
  rw [hwrite] at hleaves
  cases hleaves with
  | same hspares hsame => exact iff_of_true (touchesOnly_of_error hwrite hsame) hspares
  | temporary hne hfolder htakes hput =>
      constructor
      · intro h
        refine ⟨fun _ => .inr (.inr ?_), fun hno => absurd hfolder hno⟩
        rw [← h.failed _ _ hwrite, hput, if_pos rfl]
      · intro h
        have hthere := ((h.folder hfolder).resolve_left hne).resolve_left fun hno => hno htakes
        refine touchesOnly_of_error hwrite fun q => ?_
        rw [hput]
        split
        · next heq => rw [heq, hthere]
        · rfl
  | asset hfind hchanged =>
      have hne : place ≠ [] := by
        rintro rfl
        exact hfind rfl
      constructor
      · intro h
        refine ⟨fun hfolder => absurd hfolder hfind, fun _ => ?_⟩
        rw [← h.others _ _ hwrite hplace _ (besides_ne hne), hchanged, if_neg (besides_ne hne),
          if_pos rfl]
      · intro h
        refine touchesOnly_of_ok hplace hwrite fun q hq => ?_
        rw [hchanged, if_neg hq]
        split
        · next heq => rw [heq, h.asset hfind]
        · rfl

/-- A folder of assets. -/
def assets : Storage where
  root := ["assets"]

/-- A disk with one asset, which has the name of a temporary file. -/
def oneAsset : Disk where
  nodes := [(["assets"], .folder), (["assets", "a.tmp"], .file (bytesOf "kept"))]

theorem isTree_oneAsset : oneAsset.IsTree := by
  have hall : ∀ e ∈ oneAsset.nodes, ∀ k ∈ List.range e.1.length,
      oneAsset.node? (e.1.take k) = some .folder := by decide
  exact fun e he k hk => hall e he k (List.mem_range.mpr hk)

/-- A write under another name touches only its asset, and the file is kept. -/
theorem touchesOnly_of_free_name :
    oneAsset.IsTree ∧ assets.TouchesOnly "b" (bytesOf "x") oneAsset := by
  refine ⟨isTree_oneAsset, (touchesOnly_iff isTree_oneAsset "b" (bytesOf "x")).mpr ?_⟩
  intro place hplace
  have hb : assets.place "b" = .ok ["assets", "b"] := rfl
  obtain rfl : ["assets", "b"] = place := Except.ok.inj (hb.symm.trans hplace)
  have hfind : oneAsset.find ["assets", "b"] = .error .notFound := rfl
  exact ⟨fun hfolder => absurd (hfind.symm.trans hfolder) (by simp), fun _ => rfl⟩

/-- The temporary file takes the place of an asset that has its name, and where the root itself is
written it stays outside the root. -/
theorem not_touchesOnly_beside_temporary :
    ¬ assets.TouchesOnly "a" (bytesOf "x") oneAsset ∧ ¬ assets.TouchesOnly "" (bytesOf "x") oneAsset := by
  constructor
  · intro h
    have hwrite : (resultOf (assets.write "a" (bytesOf "x")) oneAsset).1 = .ok ⟨⟩ := rfl
    have hplace : assets.place "a" = .ok ["assets", "a"] := rfl
    have hsame := h.others _ _ (resultOf_eq hwrite) hplace ["assets", "a.tmp"] (by decide)
    have hgone : (resultOf (assets.write "a" (bytesOf "x")) oneAsset).2.content?
        ["assets", "a.tmp"] = none := rfl
    exact nomatch hgone.symm.trans hsame
  · intro h
    have hsame := h.outside ["assets.tmp"] (by decide)
    have hthere : (resultOf (assets.write "" (bytesOf "x")) oneAsset).2.content? ["assets.tmp"] =
        some (bytesOf "x") := rfl
    exact nomatch hthere.symm.trans hsame

end Storage

end Conformity
