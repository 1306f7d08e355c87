import Mathlib.Data.List.TakeWhile
import Conformity.Diagnostic.Readable
import Conformity.Proofs.Text.Utf8

/-!
# Qualified names in messages

A qualified name is a namespace between braces and right behind it a character of a word (`Qualified`).
A message loses the namespaces of its qualified names and nothing else: it stays as it is exactly if it
has none (`withoutNamespaces_eq_self_iff`). They are found wherever they stand, in the names of the
schema and in values alike. No qualified name reaches over an apostrophe, so what stands between
apostrophes is treated by itself (`withoutNamespaces_append_quote`).
-/

namespace Conformity.SchemaMessage

open Text

variable {cs rest uri name : List Char} {c : Char}

/-- The name of an element as a schema validator writes it: its namespace between braces, then its local
part. -/
def clarkName (uri name : List Char) : List Char := '{' :: (uri ++ '}' :: name)

/-- A text begins with a qualified name; `rest` is the text without the namespace. -/
inductive Qualified : List Char → List Char → Prop
  | intro {uri : List Char} (initial : Char) (rest : List Char) (hne : uri ≠ [])
      (huri : ∀ c ∈ uri, isNamespaceChar c) (hinitial : isWordChar initial) :
      Qualified (clarkName uri (initial :: rest)) (initial :: rest)

/-- Somewhere in a text begins a qualified name. -/
def HasQualified (cs : List Char) : Prop :=
  ∃ before here rest, cs = before ++ here ∧ Qualified here rest

/-! ## What is found -/

theorem namespaceLength?_eq_some_iff {n : Nat} : namespaceLength? cs = some n ↔
    ∃ uri initial rest, cs = uri ++ '}' :: initial :: rest ∧ uri ≠ [] ∧
      (∀ c ∈ uri, isNamespaceChar c) ∧ isWordChar initial ∧ n = uri.length + 1 := by
  constructor
  · intro h
    have hcs := List.takeWhile_append_dropWhile (p := isNamespaceChar) (l := cs)
    simp only [namespaceLength?] at h
    split at h
    · next initial rest hdrop =>
        rw [hdrop] at hcs
        simp only [Option.ite_none_right_eq_some, Bool.and_eq_true, Bool.not_eq_true',
          List.isEmpty_eq_false_iff, Option.some.injEq] at h
        exact ⟨_, initial, rest, hcs.symm, h.1.1, fun c hc => List.mem_takeWhile_imp hc, h.1.2,
          h.2.symm⟩
    · cases h
  · rintro ⟨uri, initial, rest, rfl, hne, huri, hinitial, rfl⟩
    have hbrace : ¬ isNamespaceChar '}' := by decide
    simp [namespaceLength?, List.takeWhile_append_of_pos huri, List.dropWhile_append_of_pos huri,
      List.takeWhile_cons_of_neg hbrace, List.dropWhile_cons_of_neg hbrace, hne, hinitial]

theorem qualified_cons_iff :
    Qualified (c :: cs) rest ↔ c = '{' ∧ ∃ n, namespaceLength? cs = some n ∧ rest = cs.drop n := by
  have hdrop : ∀ uri : List Char, ∀ more, (uri ++ '}' :: more).drop (uri.length + 1) = more := by
    intro uri more
    rw [List.append_cons]
    exact List.drop_left' (by simp)
  constructor
  · rintro ⟨initial, rest, hne, huri, hinitial⟩
    exact ⟨rfl, _, namespaceLength?_eq_some_iff.mpr ⟨_, initial, rest, rfl, hne, huri, hinitial, rfl⟩,
      (hdrop _ _).symm⟩
  · rintro ⟨rfl, n, hn, rfl⟩
    obtain ⟨uri, initial, rest, rfl, hne, huri, hinitial, rfl⟩ := namespaceLength?_eq_some_iff.mp hn
    rw [hdrop]
    exact .intro initial rest hne huri hinitial

theorem Qualified.length_lt (h : Qualified cs rest) : rest.length < cs.length := by
  cases h
  simp [clarkName]
  omega

theorem Qualified.suffix (h : Qualified cs rest) : rest <:+ cs := by
  cases h with
  | @intro uri initial rest => exact ⟨'{' :: (uri ++ ['}']), by simp [clarkName]⟩

theorem Qualified.append (h : Qualified cs rest) (more : List Char) :
    Qualified (cs ++ more) (rest ++ more) := by
  cases h with
  | @intro uri initial rest hne huri hinitial =>
      simpa [clarkName] using Qualified.intro initial (rest ++ more) hne huri hinitial

/-- No qualified name reaches over an apostrophe. -/
theorem Qualified.of_append_quote {more : List Char} (h : Qualified (c :: cs ++ '\'' :: more) rest) :
    ∃ rest, Qualified (c :: cs) rest := by
  obtain ⟨rfl, n, hn, -⟩ := qualified_cons_iff.mp h
  obtain ⟨uri, initial, rest, happend, hne, huri, hinitial, rfl⟩ := namespaceLength?_eq_some_iff.mp hn
  have hquote : '\'' ∉ uri ++ ['}', initial] := by
    have hword : ¬ isWordChar '\'' := by decide +kernel
    simp only [List.mem_append, List.mem_cons, List.not_mem_nil, or_false]
    rintro (hmem | hmem | hmem)
    · exact absurd (huri _ hmem) (by decide)
    · exact absurd hmem (by decide)
    · exact hword (hmem ▸ hinitial)
  have happend : cs ++ '\'' :: more = uri ++ ['}', initial] ++ rest := by simpa using happend
  -- a name that ended behind the apostrophe would hold it
  obtain ⟨back, rfl⟩ : ∃ back, cs = uri ++ ['}', initial] ++ back := by
    rcases List.append_eq_append_iff.mp happend with ⟨_ | ⟨c, front⟩, hfront, hmore⟩ | ⟨back, hcs, -⟩
    · exact ⟨[], by rw [hfront, List.append_nil, List.append_nil]⟩
    · obtain rfl : '\'' = c := (List.cons.inj hmore).1
      rw [hfront] at hquote
      exact absurd (by simp) hquote
    · exact ⟨back, hcs⟩
  exact ⟨_, by simpa [clarkName] using Qualified.intro initial back hne huri hinitial⟩

/-! ## What is dropped -/

theorem withoutNamespacesFrom_eq_drop (n : Nat) (cs : List Char) :
    withoutNamespacesFrom n cs = withoutNamespaces (cs.drop n) := by
  induction n generalizing cs with
  | zero => rfl
  | succ n ih =>
      cases cs with
      | nil => rfl
      | cons c cs => exact ih cs

theorem withoutNamespaces_of_qualified (h : Qualified cs rest) :
    withoutNamespaces cs = withoutNamespaces rest := by
  cases cs with
  | nil => cases h
  | cons c cs =>
      obtain ⟨rfl, n, hn, rfl⟩ := qualified_cons_iff.mp h
      rw [← withoutNamespacesFrom_eq_drop, withoutNamespaces, withoutNamespacesFrom, if_pos (by rfl), hn]

theorem withoutNamespaces_cons (h : ∀ rest, ¬ Qualified (c :: cs) rest) :
    withoutNamespaces (c :: cs) = c :: withoutNamespaces cs := by
  rw [withoutNamespaces, withoutNamespacesFrom]
  split
  · next n hn =>
      rw [Option.ite_none_right_eq_some, beq_iff_eq] at hn
      exact absurd (qualified_cons_iff.mpr ⟨hn.1, n, hn.2, rfl⟩) (h _)
  · rfl

/-- A text is gone through from one qualified name to its local part, and from all else character by
character. -/
@[elab_as_elim]
theorem qualified_induction {motive : List Char → Prop} (nil : motive [])
    (qualified : ∀ cs rest, Qualified cs rest → motive rest → motive cs)
    (plain : ∀ c cs, (∀ rest, ¬ Qualified (c :: cs) rest) → motive cs → motive (c :: cs))
    (cs : List Char) : motive cs := by
  induction hlength : cs.length using Nat.strong_induction_on generalizing cs with
  | _ n ih =>
      subst hlength
      cases cs with
      | nil => exact nil
      | cons c cs =>
          by_cases hhere : ∃ rest, Qualified (c :: cs) rest
          · obtain ⟨rest, hhere⟩ := hhere
            exact qualified _ rest hhere (ih _ hhere.length_lt rest rfl)
          · exact plain c cs (not_exists.mp hhere) (ih _ (by simp) cs rfl)

theorem withoutNamespaces_sublist (cs : List Char) : (withoutNamespaces cs).Sublist cs := by
  induction cs using qualified_induction with
  | nil => exact .slnil
  | qualified cs rest hhere ih =>
      rw [withoutNamespaces_of_qualified hhere]
      exact ih.trans hhere.suffix.sublist
  | plain c cs hhere ih =>
      rw [withoutNamespaces_cons hhere]
      exact ih.cons_cons c

theorem withoutNamespaces_append_of_notMem {first : List Char} (h : '{' ∉ first) (cs : List Char) :
    withoutNamespaces (first ++ cs) = first ++ withoutNamespaces cs := by
  induction first with
  | nil => rfl
  | cons c first ih =>
      rw [List.mem_cons, not_or] at h
      obtain ⟨hc, hfirst⟩ := h
      rw [List.cons_append, withoutNamespaces_cons, ih hfirst, List.cons_append]
      exact fun rest hhere => hc (qualified_cons_iff.mp hhere).1.symm

theorem withoutNamespaces_of_notMem (h : '{' ∉ cs) : withoutNamespaces cs = cs := by
  simpa [withoutNamespaces, withoutNamespacesFrom] using withoutNamespaces_append_of_notMem h []

/-- What stands between apostrophes is treated by itself. -/
theorem withoutNamespaces_append_quote (cs more : List Char) :
    withoutNamespaces (cs ++ '\'' :: more) = withoutNamespaces cs ++ '\'' :: withoutNamespaces more := by
  induction cs using qualified_induction with
  | nil => exact withoutNamespaces_append_of_notMem (by decide : '{' ∉ ['\'']) more
  | qualified cs rest hhere ih =>
      rw [withoutNamespaces_of_qualified (hhere.append _), ih, withoutNamespaces_of_qualified hhere]
  | plain c cs hhere ih =>
      rw [withoutNamespaces_cons hhere, List.cons_append, withoutNamespaces_cons, ih, List.cons_append]
      intro rest hlonger
      obtain ⟨rest, hqualified⟩ := hlonger.of_append_quote
      exact hhere rest hqualified

/-- A text never loses everything. -/
theorem withoutNamespaces_eq_nil_iff : withoutNamespaces cs = [] ↔ cs = [] := by
  constructor
  · intro h
    induction cs using qualified_induction with
    | nil => rfl
    | qualified cs rest hhere ih =>
        rw [withoutNamespaces_of_qualified hhere] at h
        cases hhere
        cases ih h
    | plain c cs hhere ih =>
        rw [withoutNamespaces_cons hhere] at h
        cases h
  · rintro rfl
    rfl

/-! ## What stays as it is -/

theorem hasQualified_cons_iff :
    HasQualified (c :: cs) ↔ (∃ rest, Qualified (c :: cs) rest) ∨ HasQualified cs := by
  constructor
  · rintro ⟨before, here, rest, hcs, hhere⟩
    cases before with
    | nil => exact .inl ⟨rest, by rw [hcs]; exact hhere⟩
    | cons b before => exact .inr ⟨before, here, rest, (List.cons.inj hcs).2, hhere⟩
  · rintro (⟨rest, hhere⟩ | ⟨before, here, rest, rfl, hhere⟩)
    · exact ⟨[], _, rest, rfl, hhere⟩
    · exact ⟨c :: before, here, rest, rfl, hhere⟩

theorem withoutNamespaces_eq_self_iff : withoutNamespaces cs = cs ↔ ¬ HasQualified cs := by
  induction cs with
  | nil =>
      simp only [withoutNamespaces, withoutNamespacesFrom, true_iff]
      rintro ⟨before, here, rest, hcs, hhere⟩
      obtain ⟨-, rfl⟩ := List.append_eq_nil_iff.mp hcs.symm
      cases hhere
  | cons c cs ih =>
      rw [hasQualified_cons_iff]
      by_cases hhere : ∃ rest, Qualified (c :: cs) rest
      · -- the namespace is missing, and nothing is added anywhere
        obtain ⟨rest, hrest⟩ := hhere
        have hlost : (withoutNamespaces (c :: cs)).length < (c :: cs).length := by
          rw [withoutNamespaces_of_qualified hrest]
          exact Nat.lt_of_le_of_lt (withoutNamespaces_sublist rest).length_le hrest.length_lt
        have hne : withoutNamespaces (c :: cs) ≠ c :: cs := fun h => by simp [h] at hlost
        simp [hne, show ∃ rest, Qualified (c :: cs) rest from ⟨rest, hrest⟩]
      · rw [withoutNamespaces_cons (not_exists.mp hhere)]
        simp [hhere, ih]

instance (cs : List Char) : Decidable (HasQualified cs) :=
  decidable_of_iff (withoutNamespaces cs ≠ cs) (by rw [ne_eq, withoutNamespaces_eq_self_iff, not_not])

/-! ## The name of an element -/

theorem qualified_clarkName_iff (huri : ∀ c ∈ uri, isNamespaceChar c) :
    Qualified (clarkName uri name) rest ↔
      rest = name ∧ uri ≠ [] ∧ ∃ c ∈ name.head?, isWordChar c := by
  constructor
  · generalize htext : clarkName uri name = text
    rintro ⟨initial, rest, hne, hchars, hinitial⟩
    obtain ⟨rfl, rfl⟩ := append_cons_inj (fun h => absurd (huri _ h) (by decide))
      (fun h => absurd (hchars _ h) (by decide)) (List.cons.inj htext).2
    exact ⟨rfl, hne, initial, rfl, hinitial⟩
  · rintro ⟨rfl, hne, c, hc, hinitial⟩
    obtain ⟨more, rfl⟩ := List.head?_eq_some_iff.mp hc
    exact .intro c more hne huri hinitial

/-- The name of an element is reduced to its local part, unless the namespace is empty or the local part
begins with no character of a word. -/
theorem withoutNamespaces_clarkName_eq_iff (huri : ∀ c ∈ uri, isNamespaceChar c)
    (hbrace : '{' ∉ name) :
    withoutNamespaces (clarkName uri name) = name ↔ uri ≠ [] ∧ ∃ c ∈ name.head?, isWordChar c := by
  constructor
  · intro h
    by_contra hnone
    have hqualified : ∀ rest, ¬ Qualified (clarkName uri name) rest := fun rest hhere =>
      hnone ((qualified_clarkName_iff huri).mp hhere).2
    have hkept : '{' ∈ withoutNamespaces (clarkName uri name) := by
      rw [clarkName, withoutNamespaces_cons hqualified]
      exact List.mem_cons_self
    rw [h] at hkept
    exact hbrace hkept
  · intro h
    rw [withoutNamespaces_of_qualified ((qualified_clarkName_iff huri).mpr ⟨rfl, h⟩),
      withoutNamespaces_of_notMem hbrace]

end Conformity.SchemaMessage
