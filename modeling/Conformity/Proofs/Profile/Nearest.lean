import Conformity.Proofs.Profile.Resolver
import Conformity.Proofs.Schema.Twice

/-!
# The nearest override

For an element of a schema type, the override of the nearest profile that has one counts
(`IsHeir.override?_eq`). The override takes the place of those that profiles further up have for the
element, with all its bounds: one that it does not set is not taken from further up. So a bound comes
from the nearest profile that sets it exactly if the nearest override sets it or no other one does
(`Profile.bounds_of_nearest`).
-/

namespace Conformity

open Markup Overridden

/-- The override of a profile that counts for an element. -/
def Profile.override? (p : Profile) (type element : String) : Option Override :=
  last? (p.overridesFor type) element

/-- Every schema type has one list of overrides. -/
def Profile.ListsOnce (p : Profile) : Prop := p.overrides.names.Nodup

variable {root p : Profile} {rest : List Profile}

/-- The overrides that a chain hands down. -/
def handedDown (root : Profile) (rest : List Profile) : Overrides :=
  rest.foldl (fun os q => mergeOverrides os q.overrides) root.overrides

theorem handedDown_append (root : Profile) (rest : List Profile) (own : Profile) :
    handedDown root (rest ++ [own]) = mergeOverrides (handedDown root rest) own.overrides := by
  rw [handedDown, List.foldl_append]
  rfl

theorem nodup_names_handedDown (hroot : root.ListsOnce) (rest : List Profile) :
    (handedDown root rest).names.Nodup := by
  rcases List.eq_nil_or_concat rest with rfl | ⟨rest, own, rfl⟩
  · exact hroot
  · rw [List.concat_eq_append, handedDown_append]
    exact Table.nodup_names_foldl_alter _ _ _ List.nodup_nil

/-- Of the overrides for an element, the one furthest down the chain is handed down. -/
theorem last?_handedDown (hroot : root.ListsOnce) (hrest : ∀ q ∈ rest, q.ListsOnce)
    (type element : String) : last? (overridesOf (handedDown root rest) type) element =
      (root :: rest).reverse.findSome? (·.override? type element) := by
  induction rest using List.reverseRecOn with
  | nil =>
      show root.override? type element = [root].findSome? (·.override? type element)
      rw [List.findSome?_singleton]
  | append_singleton rest own ih =>
      have hown : own.ListsOnce := hrest own (by simp)
      have habove := ih fun q hq => hrest q (List.mem_append_left [own] hq)
      rw [handedDown_append, last?_mergeOverrides (nodup_names_handedDown hroot rest) hown, habove,
        ← List.cons_append, List.reverse_append, List.reverse_singleton, List.singleton_append,
        List.findSome?_cons]
      show (own.override? type element).or _ = _
      cases own.override? type element <;> rfl

/-- A profile that resolves has, for every element, the override of the nearest profile. -/
theorem IsHeir.override?_eq (h : IsHeir root rest p) (honce : ∀ q ∈ root :: rest, q.ListsOnce)
    (type element : String) : p.override? type element =
      (root :: rest).reverse.findSome? (·.override? type element) := by
  obtain ⟨hroot, hrest⟩ := List.forall_mem_cons.mp honce
  rw [← last?_handedDown hroot hrest, handedDown, ← h.overrides]
  rfl

/-- What the first of several values says is what the first one says that says something, if the first
value says something or none does. -/
theorem findSome?_bind_iff {α β γ : Type} (g : α → Option β) (f : β → Option γ) (xs : List α) :
    (xs.findSome? g).bind f = xs.findSome? (fun x => (g x).bind f) ↔
      ∀ b, xs.findSome? g = some b → f b = none → ∀ x ∈ xs, ∀ b', g x = some b' → f b' = none := by
  induction xs with
  | nil => simp
  | cons x xs ih =>
      rw [List.findSome?_cons, List.findSome?_cons]
      cases hx : g x with
      | none => simpa [hx] using ih
      | some b =>
          cases hb : f b with
          | none =>
              have hothers : (none = xs.findSome? fun x => (g x).bind f) ↔
                  ∀ x ∈ xs, ∀ b', g x = some b' → f b' = none := by
                rw [eq_comm, List.findSome?_eq_none_iff]
                simp only [Option.bind_eq_none_iff]
              simp [hx, hb, hothers]
          | some c => simp [hb]

/-- For every element, the override of the nearest profile counts, and a bound is that of the nearest
profile that sets it exactly if the nearest override sets it or no override of the element does. For
every two tables, the merged overrides make the same of every schema as the inherited ones followed by
the own ones, exactly if no own override leaves anything of an inherited one. -/
theorem Profile.bounds_of_nearest {declared : Table Profile} {name : String} (earlier : List String)
    (hproper : AllProper declared) (honce : ∀ e ∈ declared, e.2.ListsOnce)
    (h : ((Resolver.after declared earlier).resolve name).1 = .ok p) :
    (∃ (ns : List String) (line : List Profile), Ascent declared name ns ∧
      ns.reverse.map declared.get? = line.map some ∧
      (∀ top, line.getLast? = some top → top.extends? = none) ∧
      ∀ type element, p.override? type element = line.findSome? (·.override? type element) ∧
        ∀ bound : Override → Option String,
          (p.override? type element).bind bound =
            line.findSome? (fun q => (q.override? type element).bind bound) ↔
          ∀ o, p.override? type element = some o → bound o = none →
            ∀ q ∈ line, ∀ o', q.override? type element = some o' → bound o' = none) ∧
    ∀ (inherited own : Overrides) (type : String), inherited.names.Nodup → own.names.Nodup →
      ((∀ schema, Option.Rel Node.Alike
          (modified (overridesOf (mergeOverrides inherited own) type) schema)
          ((modified (overridesOf inherited type) schema).bind (modified (overridesOf own type)))) ↔
        ∀ element o i, last? (overridesOf own type) element = some o →
          last? (overridesOf inherited type) element = some i → Covers o i) := by
  have hsettles : Settles declared name (.ok p) := h ▸ Resolver.after_settles hproper earlier name
  refine ⟨?_, fun inherited own type hinherited hown =>
    alike_merged_iff (last?_mergeOverrides hinherited hown type)⟩
  cases hsettles with
  | @resolved n ns root rest p hascent hnodup hget hroot hheir =>
      have honce' : ∀ q ∈ root :: rest, q.ListsOnce := by
        intro q hq
        obtain ⟨m, -, hm⟩ := get?_of_map_eq_map hget hq
        exact honce _ (Table.mem_of_get?_eq_some hm)
      refine ⟨n :: ns, (root :: rest).reverse, hascent, ?_, ?_, fun type element => ?_⟩
      · rw [List.map_reverse, hget, List.map_reverse]
      · intro top htop
        rw [List.getLast?_reverse] at htop
        cases htop
        exact hroot
      · have hnearest := hheir.override?_eq honce' type element
        refine ⟨hnearest, fun bound => ?_⟩
        rw [hnearest]
        exact findSome?_bind_iff _ bound _

/-- The own override sets the bound that it takes the place of, and another one is inherited as it
stands. -/
theorem Profile.bounds_of_nearest_of_family :
    (∃ (ns : List String) (line : List Profile), Ascent Resolver.family "strict" ns ∧
      ns.reverse.map Resolver.family.get? = line.map some ∧
      (Resolver.strictHeir.override? "INVOICE" "cac:Note").bind Override.minOccurs = some "1" ∧
      (Resolver.strictHeir.override? "INVOICE" "cac:Note").bind Override.minOccurs =
        line.findSome? fun q => (q.override? "INVOICE" "cac:Note").bind Override.minOccurs) ∧
    ∀ schema, Option.Rel Node.Alike
      (modified (overridesOf (mergeOverrides
        [("INVOICE", [⟨"cac:Note", some "0", none⟩, ⟨"cac:Signature", none, some "2"⟩])]
        [("INVOICE", [⟨"cac:Note", some "1", none⟩])]) "INVOICE") schema)
      ((modified [⟨"cac:Note", some "0", none⟩, ⟨"cac:Signature", none, some "2"⟩] schema).bind
        (modified [⟨"cac:Note", some "1", none⟩])) := by
  have hproper : AllProper Resolver.family := by
    unfold AllProper Profile.IsProper
    decide
  have honce : ∀ e ∈ Resolver.family, e.2.ListsOnce := by
    unfold Profile.ListsOnce
    decide
  have hresolved : ((Resolver.after Resolver.family []).resolve "strict").1 =
      .ok Resolver.strictHeir := rfl
  obtain ⟨⟨ns, line, hascent, hline, -, hnearest⟩, htables⟩ :=
    Profile.bounds_of_nearest [] hproper honce hresolved
  have hnote : Resolver.strictHeir.override? "INVOICE" "cac:Note" =
      some ⟨"cac:Note", some "1", none⟩ := rfl
  refine ⟨⟨ns, line, hascent, hline, rfl, ?_⟩, ?_⟩
  · refine ((hnearest "INVOICE" "cac:Note").2 Override.minOccurs).mpr fun o ho hnone => ?_
    rw [hnote] at ho
    cases ho
    cases hnone
  · refine (htables [("INVOICE", [⟨"cac:Note", some "0", none⟩, ⟨"cac:Signature", none, some "2"⟩])]
      [("INVOICE", [⟨"cac:Note", some "1", none⟩])] "INVOICE" (by decide) (by decide)).mpr ?_
    intro element o i ho hi
    obtain ⟨hmem, rfl⟩ := last?_eq_some ho
    obtain rfl := List.mem_singleton.mp hmem
    obtain rfl : ⟨"cac:Note", some "0", none⟩ = i := Option.some.inj hi
    exact .inr (by decide +kernel)

/-- A profile that sets one bound of an element for which the profile that it extends sets the other. -/
def partialFamily : Table Profile :=
  [("base", { name := "base", overrides := [("INVOICE", [⟨"cac:Signature", some "0", none⟩])] }),
    ("p",
      { name := "p", parent := some "base",
        overrides := [("INVOICE", [⟨"cac:Signature", none, some "2"⟩])] })]

/-- The inherited bound is lost, from the profile and from the schema. -/
theorem Profile.bound_lost_of_partial : ∃ base own p,
    partialFamily.get? "base" = some base ∧ partialFamily.get? "p" = some own ∧
    ((Resolver.after partialFamily []).resolve "p").1 = .ok p ∧
    (own.override? "INVOICE" "cac:Signature").bind Override.minOccurs = none ∧
    (base.override? "INVOICE" "cac:Signature").bind Override.minOccurs = some "0" ∧
    (p.override? "INVOICE" "cac:Signature").bind Override.minOccurs = none ∧
    (apply signatureSchema (p.overridesFor "INVOICE")).toOption.map Prod.fst ≠
      ((apply signatureSchema (base.overridesFor "INVOICE")).toOption.bind fun x =>
        (apply x.1 (own.overridesFor "INVOICE")).toOption).map Prod.fst :=
  ⟨_, _, _, rfl, rfl, rfl, rfl, rfl, rfl, by decide +kernel⟩

end Conformity
