import Mathlib.Data.List.Perm.Subperm
import Conformity.Proofs.Profile.Chain

/-!
# What a resolver finds

A resolver goes the way up from a profile, and hands the entries down again. It remembers the
profiles whose way ends well, so that what it has resolved before changes nothing
(`Resolver.resolve_follows_chain`).

If a profile resolves, so do the profiles that it extends, directly or through others: the way up from
one of them is the upper part of its own (`Ascent.above`). What they hand down comes first among its
rules (`Settles.exists_of_mem`).
-/

namespace Conformity

variable {declared : Table Profile} {name start : String}

/-- All profiles of a table are proper. -/
def AllProper (declared : Table Profile) : Prop := ∀ e ∈ declared, e.2.IsProper

theorem AllProper.of_get? (h : AllProper declared) {n : String} {own : Profile}
    (hown : declared.get? n = some own) : own.IsProper :=
  h _ (Table.mem_of_get?_eq_some hown)

/-! ## From a profile to those below it -/

/-- The way from a parent to a root does not pass through the profiles below the parent. -/
theorem Ascent.not_mem_of_extends {n parent : String} {ns : List String}
    (h : Ascent declared parent (n :: ns)) (hnodup : (n :: ns).Nodup)
    (hroot : ∀ q, ¬ Extends declared n q) (hext : Extends declared name parent) : name ∉ n :: ns := by
  intro hmem
  rcases List.mem_cons.mp hmem with rfl | hmem
  · exact hroot parent hext
  · obtain ⟨a, b, rfl⟩ := List.append_of_mem hmem
    rcases List.eq_nil_or_concat (n :: a) with hnil | ⟨l, x, hl⟩
    · cases hnil
    · have hsplit : n :: (a ++ name :: b) = l ++ x :: name :: b := by
        rw [← List.cons_append, hl]
        simp
      rw [hsplit] at h hnodup
      -- the name stands below its parent, which is also the lowest name of the way
      obtain rfl : x = parent := h.extends_of_append.eq hext
      have hlast : (name :: b).getLast? = some x := by
        rw [← h.getLast?, List.getLast?_append, List.getLast?_cons_cons,
          List.getLast?_eq_some_getLast (List.cons_ne_nil name b)]
        rfl
      have hbelow : x ∈ name :: b := List.mem_of_getLast? hlast
      exact (List.nodup_cons.mp (List.nodup_append.mp hnodup).2.1).1 hbelow

theorem get?_of_map_eq_map {ns : List String} {ps : List Profile}
    (h : ns.map declared.get? = ps.map some) {q : Profile} (hq : q ∈ ps) :
    ∃ n ∈ ns, declared.get? n = some q := by
  have hmem : some q ∈ ns.map declared.get? := h ▸ List.mem_map_of_mem hq
  simpa using hmem

/-- A profile that extends none stays as it is. -/
theorem Settles.of_root (hproper : AllProper declared) {own : Profile}
    (hown : declared.get? name = some own) (hroot : own.extends? = none) :
    Settles declared name (.ok own) := by
  have hchain : ∀ q ∈ [own], q.IsProper := by simpa using hproper.of_get? hown
  have hget : [name].map declared.get? = [own].map some := by simp [hown]
  exact .resolved .start (List.nodup_singleton name) hget hroot (isHeir_heir hchain)

/-- What a resolved parent hands down makes a resolved profile. -/
theorem Settles.inherit (hproper : AllProper declared) {own p : Profile} {parent : String}
    (hown : declared.get? name = some own) (hparent : own.extends? = some parent)
    (h : Settles declared parent (.ok p)) : Settles declared name (.ok (own.inherit p)) := by
  have hext : Extends declared name parent := ⟨own, hown, hparent⟩
  cases h with
  | @resolved n ns root rest p hascent hnodup hget hroot hheir =>
      have hfirst : declared.get? n = some root := (List.cons_eq_cons.mp hget).1
      have hfresh : name ∉ n :: ns :=
        hascent.not_mem_of_extends hnodup (Settles.not_extends hfirst hroot) hext
      have hchain : ∀ q ∈ root :: rest, q.IsProper := by
        intro q hq
        obtain ⟨m, -, hm⟩ := get?_of_map_eq_map hget hq
        exact hproper.of_get? hm
      have hbelow : ∀ q ∈ root :: (rest ++ [own]), q.IsProper := by
        intro q hq
        rcases List.mem_append.mp (List.cons_append ▸ hq) with hq | hq
        · exact hchain q hq
        · rw [List.mem_singleton.mp hq]
          exact hproper.of_get? hown
      rw [hheir.unique (isHeir_heir hchain), ← heir_append]
      have habove : Ascent declared name (n :: (ns ++ [name])) := hascent.from_below hext
      have hnodup' : (n :: (ns ++ [name])).Nodup := by
        rw [← List.cons_append, ← List.concat_eq_append]
        exact hnodup.concat hfresh
      have hget' : (n :: (ns ++ [name])).map declared.get? = (root :: (rest ++ [own])).map some := by
        rw [← List.cons_append, ← List.cons_append, List.map_append, List.map_append, hget]
        simp [hown]
      exact .resolved habove hnodup' hget' hroot (isHeir_heir hbelow)

/-! ## Remembering -/

namespace Resolver

/-- What is remembered are profiles as they are to become. -/
def Remembers (declared resolved : Table Profile) : Prop :=
  ∀ name p, resolved.get? name = some p → Settles declared name (.ok p)

theorem Remembers.set {resolved : Table Profile} (h : Remembers declared resolved) {p : Profile}
    (hp : Settles declared name (.ok p)) : Remembers declared (resolved.set name p) := by
  intro n q hq
  rw [Table.get?_set] at hq
  split at hq
  · next heq =>
    cases hq
    rwa [← heq]
  · exact h n q hq

/-- Names that come below one another are no more than there are profiles. -/
theorem length_le_of_ascent {path : List String} (h : Ascent declared start (name :: path))
    (hpath : path.Nodup) : path.length ≤ declared.length := by
  have hsubset : path ⊆ declared.names := by
    intro m hm
    obtain ⟨p, hext⟩ := h.extends_of_mem hm
    exact hext.mem_names
  have hlength := (List.subperm_of_subset hpath hsubset).length_le
  rwa [Table.names, List.length_map] at hlength

section Steps

variable {fuel : Nat} {resolved : Table Profile} {path : List String} {own : Profile}

/-- One step up, which the lemmas below take apart. -/
theorem resolveFrom_succ : resolveFrom declared (fuel + 1) resolved path name =
    if path.contains name then (.error (.cycle name), resolved)
    else
      match resolved.get? name with
      | some p => (.ok p, resolved)
      | none =>
        match declared.get? name with
        | none => (.error (.unknown name), resolved)
        | some own =>
          match own.extends? with
          | none => (.ok own, resolved.set name own)
          | some parent =>
            if !declared.has parent then (.error (.unknownParent name parent), resolved)
            else
              match resolveFrom declared fuel resolved (name :: path) parent with
              | (.ok p, resolved) => (.ok (own.inherit p), resolved.set name (own.inherit p))
              | (.error e, resolved) => (.error e, resolved) := rfl

theorem resolveFrom_of_mem (h : name ∈ path) :
    resolveFrom declared (fuel + 1) resolved path name = (.error (.cycle name), resolved) := by
  rw [resolveFrom_succ, if_pos (List.contains_iff_mem.mpr h)]

theorem resolveFrom_of_resolved (h : name ∉ path) {p : Profile} (hp : resolved.get? name = some p) :
    resolveFrom declared (fuel + 1) resolved path name = (.ok p, resolved) := by
  rw [resolveFrom_succ, if_neg (by simpa using h), hp]

theorem resolveFrom_of_none (h : name ∉ path) (hp : resolved.get? name = none)
    (hown : declared.get? name = none) :
    resolveFrom declared (fuel + 1) resolved path name = (.error (.unknown name), resolved) := by
  rw [resolveFrom_succ, if_neg (by simpa using h), hp, hown]

theorem resolveFrom_of_root (h : name ∉ path) (hp : resolved.get? name = none)
    (hown : declared.get? name = some own) (hroot : own.extends? = none) :
    resolveFrom declared (fuel + 1) resolved path name = (.ok own, resolved.set name own) := by
  rw [resolveFrom_succ, if_neg (by simpa using h), hp, hown]
  simp only [hroot]

theorem resolveFrom_of_extends (h : name ∉ path) (hp : resolved.get? name = none)
    (hown : declared.get? name = some own) {parent : String} (hparent : own.extends? = some parent) :
    resolveFrom declared (fuel + 1) resolved path name =
      if !declared.has parent then (.error (.unknownParent name parent), resolved)
      else
        match resolveFrom declared fuel resolved (name :: path) parent with
        | (.ok p, resolved) => (.ok (own.inherit p), resolved.set name (own.inherit p))
        | (.error e, resolved) => (.error e, resolved) := by
  rw [resolveFrom_succ, if_neg (by simpa using h), hp, hown]
  dsimp only
  generalize own.extends? = parent? at hparent ⊢
  subst hparent
  rfl

end Steps

/-- What is found for the name that a way has reached is what becomes of that name; a fault is that
of the name from which the way began. -/
inductive Found (declared : Table Profile) (start name : String) :
    Except InheritanceFault Profile × Table Profile → Prop
  | profile {p : Profile} {resolved : Table Profile} : Settles declared name (.ok p) →
      Remembers declared resolved → Found declared start name (.ok p, resolved)
  | fault {e : InheritanceFault} {resolved : Table Profile} : Settles declared start (.error e) →
      Remembers declared resolved → Found declared start name (.error e, resolved)

/-- A way is followed to its end. -/
theorem resolveFrom_found (hproper : AllProper declared) (fuel : Nat) {resolved : Table Profile}
    {path : List String} (hascent : Ascent declared start (name :: path)) (hpath : path.Nodup)
    (hknown : path = [] ∨ declared.has name) (hfuel : declared.length < path.length + fuel)
    (hmemo : Remembers declared resolved) :
    Found declared start name (resolveFrom declared fuel resolved path name) := by
  induction fuel generalizing resolved path name with
  | zero =>
      have hlength := length_le_of_ascent hascent hpath
      omega
  | succ fuel ih =>
      by_cases hmem : name ∈ path
      · rw [resolveFrom_of_mem hmem]
        exact .fault (.cycle hascent hpath hmem) hmemo
      · have hnodup : (name :: path).Nodup := List.nodup_cons.mpr ⟨hmem, hpath⟩
        cases hfound : resolved.get? name with
        | some p =>
            rw [resolveFrom_of_resolved hmem hfound]
            exact .profile (hmemo name p hfound) hmemo
        | none =>
          cases hown : declared.get? name with
          | none =>
              rw [resolveFrom_of_none hmem hfound hown]
              rcases hknown with rfl | hknown
              · obtain rfl := hascent.eq_start
                exact .fault (.unknown hown) hmemo
              · simp [Table.has, hown] at hknown
          | some own =>
            cases hparent : own.extends? with
            | none =>
                rw [resolveFrom_of_root hmem hfound hown hparent]
                have hself : Settles declared name (.ok own) := .of_root hproper hown hparent
                exact .profile hself (hmemo.set hself)
            | some parent =>
                have habove := hascent.climb ⟨own, hown, hparent⟩
                rw [resolveFrom_of_extends hmem hfound hown hparent]
                by_cases hhas : declared.has parent
                · rw [if_neg (by simp [hhas])]
                  have hfuel' : declared.length < (name :: path).length + fuel := by
                    rw [List.length_cons]
                    omega
                  have hrec := ih habove hnodup (.inr hhas) hfuel' hmemo
                  revert hrec
                  generalize resolveFrom declared fuel resolved (name :: path) parent = found
                  intro hrec
                  -- a profile comes back as the parent's, a fault as that of the start
                  cases hrec with
                  | profile hp hlater =>
                      have hself := hp.inherit hproper hown hparent
                      exact .profile hself (hlater.set hself)
                  | fault he hlater => exact .fault he hlater
                · rw [if_pos (by simp [hhas])]
                  have hnone : declared.get? parent = none := by simpa [Table.has] using hhas
                  exact .fault (.unknownParent habove hnodup hnone) hmemo

/-- A resolver that remembers rightly finds what becomes of a profile, and still remembers rightly. -/
theorem resolve_settles {r : Resolver} (hproper : AllProper r.declared)
    (hmemo : Remembers r.declared r.resolved) (name : String) :
    Settles r.declared name (r.resolve name).1 ∧
      Remembers r.declared (r.resolve name).2.resolved := by
  have hfound := resolveFrom_found hproper (r.declared.length + 1)
    (.start : Ascent r.declared name [name]) List.nodup_nil (.inl rfl) (by simp) hmemo
  unfold resolve
  revert hfound
  generalize resolveFrom r.declared (r.declared.length + 1) r.resolved [] name = found
  intro hfound
  cases hfound with
  | profile hp hlater => exact ⟨hp, hlater⟩
  | fault he hlater => exact ⟨he, hlater⟩

/-! ## A resolver in use -/

/-- A resolver after profiles were resolved one after another. -/
def after (declared : Table Profile) (earlier : List String) : Resolver :=
  earlier.foldl (fun r name => (r.resolve name).2) { declared }

theorem after_append (declared : Table Profile) (earlier : List String) (name : String) :
    after declared (earlier ++ [name]) = ((after declared earlier).resolve name).2 := by
  rw [after, List.foldl_append]
  rfl

theorem after_remembers (hproper : AllProper declared) (earlier : List String) :
    (after declared earlier).declared = declared ∧
      Remembers declared (after declared earlier).resolved := by
  induction earlier using List.reverseRecOn with
  | nil => exact ⟨rfl, fun _ _ h => nomatch h⟩
  | append_singleton earlier name ih =>
      obtain ⟨hdeclared, hmemo⟩ := ih
      rw [after_append]
      refine ⟨hdeclared, ?_⟩
      have hlater := (resolve_settles (hdeclared.symm ▸ hproper) (hdeclared.symm ▸ hmemo) name).2
      rwa [hdeclared] at hlater

theorem after_settles (hproper : AllProper declared) (earlier : List String) (name : String) :
    Settles declared name ((after declared earlier).resolve name).1 := by
  obtain ⟨hdeclared, hmemo⟩ := after_remembers hproper earlier
  have hresult := (resolve_settles (hdeclared.symm ▸ hproper) (hdeclared.symm ▸ hmemo) name).1
  rwa [hdeclared] at hresult

/-- What a resolver finds that has resolved nothing before. -/
def outcome (declared : Table Profile) (name : String) : Except InheritanceFault Profile :=
  (resolve { declared } name).1

theorem outcome_eq_iff (hproper : AllProper declared) {o : Except InheritanceFault Profile} :
    outcome declared name = o ↔ Settles declared name o := by
  have hfound : Settles declared name (outcome declared name) := after_settles hproper [] name
  exact ⟨fun h => h ▸ hfound, hfound.unique⟩

/-- The fault of a profile, if it has one. -/
def fault? (declared : Table Profile) (name : String) : Option InheritanceFault :=
  match outcome declared name with
  | .ok _ => none
  | .error e => some e

theorem toOption_outcome_eq_some (hproper : AllProper declared) {p : Profile} :
    (outcome declared name).toOption = some p ↔ Settles declared name (.ok p) := by
  rw [← outcome_eq_iff hproper]
  cases outcome declared name <;> simp [Except.toOption]

theorem fault?_eq_some (hproper : AllProper declared) {e : InheritanceFault} :
    fault? declared name = some e ↔ Settles declared name (.error e) := by
  rw [← outcome_eq_iff hproper, fault?]
  cases outcome declared name <;> simp

theorem resolveEach_eq (hproper : AllProper declared) (names earlier : List String) :
    resolveEach (after declared earlier) names =
      (names.filterMap fun n => (outcome declared n).toOption.map (n, ·),
        names.filterMap fun n => (fault? declared n).map (n, ·)) := by
  induction names generalizing earlier with
  | nil => rfl
  | cons name names ih =>
      have hhead : ((after declared earlier).resolve name).1 = outcome declared name :=
        ((outcome_eq_iff hproper).mpr (after_settles hproper earlier name)).symm
      have htail := ih (earlier ++ [name])
      rw [after_append] at htail
      unfold resolveEach
      dsimp only
      rw [htail, hhead, List.filterMap_cons, List.filterMap_cons, fault?]
      cases outcome declared name <;> rfl

/-- What becomes of all profiles, told apart and each in the order of the profiles. -/
theorem resolveAll_eq (hproper : AllProper declared) : resolveAll declared =
    (declared.names.filterMap fun n => (outcome declared n).toOption.map (n, ·),
      declared.names.filterMap fun n => (fault? declared n).map (n, ·)) :=
  resolveEach_eq hproper declared.names []

end Resolver

/-! ## What becomes of a profile lies in its way -/

variable {declared' : Table Profile}

theorem Ascent.congr {names : List String} (h : Ascent declared name names)
    (hsame : ∀ ns, Ascent declared name ns → ∀ n ∈ ns, declared'.get? n = declared.get? n) :
    Ascent declared' name names := by
  induction h with
  | start => exact .start
  | @climb n parent ns hascent hext ih =>
      obtain ⟨own, hown, hparent⟩ := hext
      exact ih.climb ⟨own, (hsame _ hascent n List.mem_cons_self).trans hown, hparent⟩

/-- Where two tables have the same profiles along the way up from a name, they make the same of it. -/
theorem Settles.congr {o : Except InheritanceFault Profile} (h : Settles declared name o)
    (hsame : ∀ ns, Ascent declared name ns → ∀ n ∈ ns, declared'.get? n = declared.get? n) :
    Settles declared' name o := by
  cases h with
  | @resolved n ns root rest p hascent hnodup hget hroot hheir =>
      refine .resolved (hascent.congr hsame) hnodup ?_ hroot hheir
      rw [← hget]
      exact List.map_congr_left (hsame _ hascent)
  | cycle hascent hnodup hmem => exact .cycle (hascent.congr hsame) hnodup hmem
  | unknown hnone => exact .unknown ((hsame _ .start name List.mem_cons_self).trans hnone)
  | unknownParent hascent hnodup hnone =>
      exact .unknownParent (hascent.congr hsame) hnodup
        ((hsame _ hascent _ List.mem_cons_self).trans hnone)

namespace Resolver

/-- Whatever was resolved before, a resolver finds for a name what the way up from its profile makes
of it, and nothing else. All profiles together are told apart by what becomes of them, in their
order; and what becomes of one depends on no profile but those on its way. -/
theorem resolve_follows_chain (hproper : AllProper declared) (earlier : List String) (name : String) :
    (∀ o, ((after declared earlier).resolve name).1 = o ↔ Settles declared name o) ∧
      ((resolveAll declared).1.names = declared.names.filter (fun n => (outcome declared n).isOk) ∧
        (resolveAll declared).2.names =
          declared.names.filter (fun n => !(outcome declared n).isOk) ∧
        (∀ n p, (n, p) ∈ (resolveAll declared).1 ↔
          n ∈ declared.names ∧ Settles declared n (.ok p)) ∧
        ∀ n e, (n, e) ∈ (resolveAll declared).2 ↔
          n ∈ declared.names ∧ Settles declared n (.error e)) ∧
      ∀ declared', AllProper declared' →
        (∀ ns, Ascent declared name ns → ∀ n ∈ ns, declared'.get? n = declared.get? n) →
          outcome declared' name = outcome declared name := by
  refine ⟨fun o => ?_, ⟨?_, ?_, fun n p => ?_, fun n e => ?_⟩, fun declared' hproper' hsame => ?_⟩
  · have hfound := after_settles hproper earlier name
    exact ⟨fun h => h ▸ hfound, hfound.unique⟩
  · rw [resolveAll_eq hproper, Table.names_filterMap]
    congr
    funext n
    cases outcome declared n <;> rfl
  · rw [resolveAll_eq hproper, Table.names_filterMap]
    congr
    funext n
    rw [fault?]
    cases outcome declared n <;> rfl
  · rw [resolveAll_eq hproper, Table.mem_filterMap, toOption_outcome_eq_some hproper]
  · rw [resolveAll_eq hproper, Table.mem_filterMap, fault?_eq_some hproper]
  · have hfound := (outcome_eq_iff hproper).mp (rfl : outcome declared name = outcome declared name)
    exact (outcome_eq_iff hproper').mpr (hfound.congr hsame)

/-- A profile with a parent, a way into a cycle, and a way that leaves the profiles. -/
def family : Table Profile :=
  [("strict",
      { name := "strict", parent := some "base", rules := [{ pattern := "R2" }],
        overrides := [("INVOICE", [⟨"cac:Note", some "1", none⟩])],
        assertions := [("MAIN", [⟨some "/b", some "2", some "two", none⟩])] }),
    ("base",
      { name := "base", parent := some "", rules := [{ pattern := "R1" }],
        overrides := [("INVOICE", [⟨"cac:Note", some "0", none⟩, ⟨"cac:Signature", none, some "2"⟩])],
        assertions := [("MAIN", [⟨some "/a", some "1", some "one", none⟩])] }),
    ("tail", { name := "tail", parent := some "loop" }),
    ("loop", { name := "loop", parent := some "round" }),
    ("round", { name := "round", parent := some "loop" }),
    ("lost", { name := "lost", parent := some "nowhere" })]

/-- The profile `strict` of the family with what it inherits. -/
def strictHeir : Profile :=
  { name := "strict", parent := some "base", rules := [{ pattern := "R1" }, { pattern := "R2" }],
    overrides := [("INVOICE", [⟨"cac:Note", some "1", none⟩, ⟨"cac:Signature", none, some "2"⟩])],
    assertions := [("MAIN", [⟨some "/a", some "1", some "one", none⟩,
      ⟨some "/b", some "2", some "two", none⟩])] }

/-- A cycle and a way that leaves the profiles do not stand in the way of a third profile. -/
theorem resolve_follows_chain_of_family : AllProper family ∧
    Settles family "strict" (.ok strictHeir) ∧ Settles family "tail" (.error (.cycle "loop")) ∧
    Settles family "lost" (.error (.unknownParent "lost" "nowhere")) := by
  have hproper : AllProper family := by
    unfold AllProper Profile.IsProper
    decide
  refine ⟨hproper, ?_, ?_, ?_⟩
  · exact ((resolve_follows_chain hproper ["tail", "lost"] "strict").1 _).mp rfl
  · exact ((resolve_follows_chain hproper ["strict", "lost"] "tail").1 _).mp rfl
  · exact ((resolve_follows_chain hproper ["strict", "tail"] "lost").1 _).mp rfl

end Resolver

/-! ## The profiles above a profile -/

section Above

variable {a n : String} {l r ms ns : List String}

/-- From a profile on the way, the same way leads up. -/
theorem Ascent.above (h : Ascent declared name (l ++ a :: r)) : Ascent declared a (l ++ [a]) := by
  induction l with
  | nil => exact .start
  | cons x l ih =>
      cases l with
      | nil =>
          cases h with
          | climb _ hext => exact .climb .start hext
      | cons y l =>
          cases h with
          | climb h hext => exact .climb (ih h) hext

/-- A way that ends at a profile that extends none holds all profiles above the first one. -/
theorem Ascent.suffix_of_root (h : Ascent declared name ms) (hroot : Ascent declared name (n :: ns))
    (hends : ∀ parent, ¬ Extends declared n parent) : ms <:+ n :: ns := by
  rcases h.suffix_or_suffix hroot with hsuffix | ⟨above, rfl⟩
  · exact hsuffix
  · rcases List.eq_nil_or_concat above with rfl | ⟨above, q, rfl⟩
    · exact List.suffix_refl _
    · have hbelow : Ascent declared name (above ++ q :: n :: ns) := by simpa using h
      exact absurd hbelow.extends_of_append (hends q)

/-- A profile above one that resolves resolves, too. Its rules come first among those of the other. -/
theorem Settles.exists_of_mem (hproper : AllProper declared) {p : Profile}
    (h : Settles declared name (.ok p)) (hascent : Ascent declared name ms) (ha : a ∈ ms) :
    ∃ q, Settles declared a (.ok q) ∧ q.rules <+: p.rules := by
  cases h with
  | @resolved n ns root rest p hway hnodup hget hroot hheir =>
      have hfirst : declared.get? n = some root := (List.cons_eq_cons.mp hget).1
      have hmem : a ∈ n :: ns :=
        (hascent.suffix_of_root hway (Settles.not_extends hfirst hroot)).subset ha
      obtain ⟨l, r, hsplit⟩ := List.append_of_mem hmem
      have hparts : n :: ns = (l ++ [a]) ++ r := by simpa using hsplit
      have habove : Ascent declared a (l ++ [a]) := Ascent.above (hsplit ▸ hway)
      obtain ⟨m, ms, hms⟩ := List.exists_cons_of_ne_nil (List.append_ne_nil_of_right_ne_nil l
        (List.cons_ne_nil a []))
      rw [hms] at habove hparts
      -- the chain of the profile above is the first part of the whole chain
      have hget' := hget
      rw [hparts, List.map_append] at hget'
      obtain ⟨chain, below, hchain, hupper, -⟩ := List.append_eq_map_iff.mp hget'
      cases chain with
      | nil => cases hupper
      | cons top upper =>
          obtain rfl : root = top := (List.cons_eq_cons.mp hchain).1
          have hproper' : ∀ q ∈ root :: upper, q.IsProper := by
            intro q hq
            obtain ⟨m, -, hm⟩ := get?_of_map_eq_map hupper.symm hq
            exact hproper.of_get? hm
          have hnodup' : (m :: ms).Nodup := (hparts ▸ hnodup).of_append_left
          refine ⟨_, .resolved habove hnodup' hupper.symm hroot (isHeir_heir hproper'), ?_⟩
          rw [(isHeir_heir hproper').rules, hheir.rules, hchain, List.flatMap_append]
          exact List.prefix_append _ _

end Above

end Conformity
