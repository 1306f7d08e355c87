import Conformity.Proofs.Text.Trim
import Conformity.Proofs.Work
import Conformity.Storage.Basic

/-!
# Paths below a root

A path is a row of names between separators of either sort. From the root it leads to a place, name by
name (`Path.Leads`). An asset has this place if the place lies at or below the root, and none otherwise
(`Storage.Confined`, `Storage.place_eq_iff`); so there is no asset outside the root, not even in a
folder beside it whose name begins like that of the root (`Storage.confines`).
-/

namespace Conformity

open Conformity.Path (Place)

namespace Path

variable {p q q' : Place} {names : List String}

/-! ## Names between separators -/

/-- Paths are written with slashes of either sort. -/
def isSeparator (c : Char) : Bool := c == '/' || c == '\\'

/-- The names between the separators of a path. -/
def namesOf (path : String) : List String :=
  ((path.toList.splitOnP isSeparator).filter (!·.isEmpty)).map String.ofList

/-- Where backslashes have become slashes, the slashes are the separators. -/
theorem splitOnP_slashes (cs : List Char) :
    (cs.map fun c => if c == '\\' then '/' else c).splitOnP (· == '/') = cs.splitOnP isSeparator := by
  induction cs with
  | nil => rfl
  | cons c cs ih =>
      rw [List.map_cons, List.splitOnP_cons_eq_if_modifyHead, List.splitOnP_cons_eq_if_modifyHead, ih]
      by_cases hback : c = '\\'
      · simp [isSeparator, hback]
      · simp [isSeparator, hback]

/-- No name stands before separators in front. -/
theorem filter_splitOnP_dropWhile (p : Char → Bool) (cs : List Char) :
    ((cs.dropWhile p).splitOnP p).filter (!·.isEmpty) = (cs.splitOnP p).filter (!·.isEmpty) := by
  induction cs with
  | nil => rfl
  | cons c cs ih =>
      by_cases hc : p c
      · simp [List.splitOnP_cons_eq_if_modifyHead, hc, ih]
      · simp [hc]

theorem parts_plain (path : String) : parts (plain path) = namesOf path := by
  rw [parts, plain, String.toList_ofList, Text.split_eq_splitOnP, filter_splitOnP_dropWhile,
    splitOnP_slashes, namesOf]

/-! ## Walking -/

/-- The names of a path lead from one place to another. -/
inductive Leads : Place → List String → Place → Prop
  | arrives (p : Place) : Leads p [] p
  | stays {p q : Place} {names : List String} : Leads p names q → Leads p ("." :: names) q
  /-- Two dots lead to the folder around a place; around the top folder is the top folder. -/
  | leaves {p q : Place} {names : List String} : Leads p.dropLast names q → Leads p (".." :: names) q
  | enters {p q : Place} {name : String} {names : List String} : name ≠ "." → name ≠ ".." →
      Leads (p ++ [name]) names q → Leads p (name :: names) q

theorem leads_walk (place names : List String) :
    Leads place.reverse names (walk place names).reverse := by
  induction names generalizing place with
  | nil => exact .arrives _
  | cons name names ih =>
      unfold walk
      split
      · next hdot =>
        obtain rfl := beq_iff_eq.mp hdot
        exact .stays (ih place)
      · next hdot =>
        split
        · next hdots =>
          obtain rfl := beq_iff_eq.mp hdots
          have hrest := ih place.tail
          rw [← List.dropLast_reverse] at hrest
          rw [List.drop_one]
          exact .leaves hrest
        · next hdots =>
          have hrest := ih (name :: place)
          rw [List.reverse_cons] at hrest
          exact .enters (by simpa using hdot) (by simpa using hdots) hrest

theorem Leads.eq_walk (h : Leads p names q) : q = (walk p.reverse names).reverse := by
  induction h with
  | arrives p => simp [walk]
  | stays _ ih => simpa [walk] using ih
  | leaves _ ih => simpa [walk, List.tail_reverse] using ih
  | enters hdot hdots _ ih => simpa [walk, hdot, hdots] using ih

/-- A path leads to one place. -/
theorem Leads.unique (h : Leads p names q) (h' : Leads p names q') : q = q' :=
  h.eq_walk.trans h'.eq_walk.symm

theorem leads_from (root : Place) (path : String) :
    Leads root (namesOf path) (from_ root (plain path)) := by
  have hwalk := leads_walk root.reverse (namesOf path)
  rw [List.reverse_reverse] at hwalk
  rw [from_, parts_plain]
  exact hwalk

end Path

namespace Storage

variable {s : Storage} {path : String} {place : Place} {d : Disk}

/-! ## Places of assets -/

/-- What the place of an asset is: the place that the path leads to from the root, if the root is on the
way there. A path with a NUL character is no path. -/
inductive Confined (s : Storage) (path : String) : Except Refused Place → Prop
  | inside {place : Place} : '\x00' ∉ path.toList → Path.Leads s.root (Path.namesOf path) place →
      s.root <+: place → Confined s path (.ok place)
  | outside {place : Place} : '\x00' ∉ path.toList → Path.Leads s.root (Path.namesOf path) place →
      ¬ s.root <+: place → Confined s path (.error (.outside path))
  | nul : '\x00' ∈ path.toList → Confined s path (.error .nulInPath)

theorem any_nul_iff (cs : List Char) : (cs.any fun c => c.toNat == 0) ↔ '\x00' ∈ cs := by
  rw [List.any_eq_true]
  constructor
  · rintro ⟨c, hc, hzero⟩
    have hnul : c = '\x00' := Char.toNat_inj.mp (beq_iff_eq.mp hzero)
    rwa [← hnul]
  · intro hnul
    exact ⟨_, hnul, rfl⟩

theorem confined_place (s : Storage) (path : String) : Confined s path (s.place path) := by
  have hleads := Path.leads_from s.root path
  unfold Storage.place
  split
  · next hnul => exact .nul ((any_nul_iff _).mp hnul)
  · next hnul =>
    have hno : '\x00' ∉ path.toList := fun h => hnul ((any_nul_iff _).mpr h)
    unfold Path.below? Path.isWithin
    by_cases hwithin : s.root.isPrefixOf (Path.from_ s.root (Path.plain path))
    · simp only [hwithin, if_true]
      exact .inside hno hleads (List.isPrefixOf_iff_prefix.mp hwithin)
    · simp only [hwithin]
      exact .outside hno hleads fun hroot => hwithin (List.isPrefixOf_iff_prefix.mpr hroot)

theorem Confined.unique {r r' : Except Refused Place} (h : Confined s path r)
    (h' : Confined s path r') : r = r' := by
  cases h with
  | inside hno hleads hroot =>
      cases h' with
      | inside _ hleads' _ => rw [hleads.unique hleads']
      | outside _ hleads' hroot' => exact absurd (hleads.unique hleads' ▸ hroot) hroot'
      | nul hnul => exact absurd hnul hno
  | outside hno hleads hroot =>
      cases h' with
      | inside _ hleads' hroot' => exact absurd (hleads.unique hleads' ▸ hroot') hroot
      | outside => rfl
      | nul hnul => exact absurd hnul hno
  | nul hnul =>
      cases h' with
      | inside hno _ _ => exact absurd hnul hno
      | outside hno _ _ => exact absurd hnul hno
      | nul => rfl

theorem place_eq_iff {r : Except Refused Place} : s.place path = r ↔ Confined s path r := by
  constructor
  · rintro rfl
    exact confined_place s path
  · exact (confined_place s path).unique

/-- A place beside the root does not lie below it, even if its name begins like that of the root. -/
theorem not_prefix_of_sibling {around more : Place} {name ending : String} (h : ending ≠ "") :
    ¬ around ++ [name] <+: around ++ (name ++ ending) :: more := by
  rw [List.prefix_append_right_inj, List.cons_prefix_cons]
  rintro ⟨hname, -⟩
  exact h (String.append_eq_left_iff.mp hname.symm)

/-! ## Assets -/

theorem isAsset_of_error {e : Refused} (h : s.place path = .error e) (d : Disk) :
    resultOf (s.isAsset path) d = (.ok false, d) := by
  unfold isAsset
  rw [h]
  rfl

theorem exists_file_of_isAsset (h : (resultOf (s.isAsset path) d).1 = .ok true) :
    ∃ place content, s.place path = .ok place ∧ d.find place = .ok (.file content) := by
  unfold isAsset at h
  split at h
  · next place hplace =>
    refine ⟨place, ?_⟩
    unfold Disk.isFile Disk.look at h
    rw [resultOf_bind, resultOf_bind, resultOf_get] at h
    dsimp only at h
    cases hfind : d.find place with
    | ok node =>
        rw [hfind] at h
        cases node with
        | file content => exact ⟨content, hplace, rfl⟩
        | folder => cases h
    | error e =>
        rw [hfind] at h
        cases e <;> cases h
  · cases h

/-- The place of a path is where the path leads to from the root, or it is refused if this is outside:
so are the places beside the root whose names begin like that of the root. Nothing outside is told to
be an asset. -/
theorem confines (s : Storage) (path : String) :
    (∀ r, s.place path = r ↔ Confined s path r) ∧
      (∀ around name ending more, s.root = around ++ [name] → ending ≠ "" →
        Path.Leads s.root (Path.namesOf path) (around ++ (name ++ ending) :: more) →
          ∃ e, s.place path = .error e) ∧
      (∀ e, s.place path = .error e → ∀ d, resultOf (s.isAsset path) d = (.ok false, d)) ∧
      ∀ d, (resultOf (s.isAsset path) d).1 = .ok true → ∃ place content,
        s.place path = .ok place ∧ s.root <+: place ∧ d.find place = .ok (.file content) := by
  refine ⟨fun r => place_eq_iff, ?_, fun e he d => isAsset_of_error he d, ?_⟩
  · intro around name ending more hroot hending hleads
    have hsibling : ¬ s.root <+: around ++ (name ++ ending) :: more := by
      rw [hroot]
      exact not_prefix_of_sibling hending
    by_cases hnul : '\x00' ∈ path.toList
    · exact ⟨_, place_eq_iff.mpr (.nul hnul)⟩
    · exact ⟨_, place_eq_iff.mpr (.outside hnul hleads hsibling)⟩
  · intro d hd
    obtain ⟨place, content, hplace, hfile⟩ := exists_file_of_isAsset hd
    refine ⟨place, content, hplace, ?_, hfile⟩
    cases place_eq_iff.mp hplace with
    | inside _ _ hroot => exact hroot

example : ({ root := ["srv", "assets"] } : Storage).place "..\\assets2//a" =
    .error (.outside "..\\assets2//a") := by rfl

end Storage

end Conformity
