import Mathlib.Data.List.Perm.Basic
import Conformity.Proofs.Diagnostic.Value

/-!
# Forms of schema messages

A message about an element has one of eight forms (`Written`), whose names, values and lists may be
anything that ends where the form says. The name of the element ends at the first apostrophe, and behind
it each form begins with words of its own, so no message has two forms. The order in which the forms are
tried does not matter, and a message of no form only loses its namespaces and the blanks around it
(`forms_exclusive`).
-/

namespace Conformity.SchemaMessage

open Text

variable {element value cs rest items digits : List Char} {m m' : SchemaMessage}

/-! ## Written messages -/

/-- A message about an element. -/
def about (element rest : List Char) : List Char :=
  "Element '".toList ++ (element ++ '\'' :: (": ".toList ++ rest))

/-- A name between apostrophes. -/
structure IsName (name : List Char) : Prop where
  ne_nil : name ≠ []
  noQuote : '\'' ∉ name

/-- Items that are expected, on one line. -/
structure IsItems (items : List Char) : Prop where
  ne_nil : items ≠ []
  oneLine : '\n' ∉ items

/-- The digits of a number. -/
structure IsNumber (digits : List Char) : Prop where
  ne_nil : digits ≠ []
  digits : digits.all isDigit

/-- Words that may be left out. -/
def optional (given : Bool) (words : String) : List Char := if given then words.toList else []

/-- What is expected; one of the items may be enough. -/
def expectation (oneOf : Bool) (items : List Char) : List Char :=
  "Expected is ".toList ++ (optional oneOf "one of " ++ ("( ".toList ++ (items ++ " ).".toList)))

/-- The name of a type at the end of a message, if it has one. -/
def typeEnding : Option (List Char) → List Char
  | some name => " '".toList ++ (name ++ '\'' :: ['.'])
  | none => ['.']

/-- A value whose length a facet does not allow. -/
def lengthFault (facet comparison : String) (value length limit : List Char) : List Char :=
  ("[facet '" ++ facet ++ "'] The value '").toList ++ (value ++ '\'' ::
    (" has a length of '".toList ++ (length ++ '\'' ::
      (("; this " ++ comparison ++ " length of '").toList ++ (limit ++ '\'' :: ['.'])))))

/-- What a message says about an element, by the form that it has. -/
inductive Says (element : List Char) : SchemaMessage → List Char → Prop
  | incomplete {items : List Char} (oneOf : Bool) (hitems : IsItems items) :
      Says element (.incomplete element items)
        ("Missing child element(s). ".toList ++ expectation oneOf items)
  | notExpected : Says element (.notExpected element none) "This element is not expected.".toList
  | insteadOf {items : List Char} (oneOf : Bool) (hitems : IsItems items) :
      Says element (.notExpected element (some items))
        ("This element is not expected.".toList ++ (" ".toList ++ expectation oneOf items))
  | invalidValue {value : List Char} {type : Option (List Char)} (isLocal : Bool)
      (hvalue : '\'' ∉ value) (htype : ∀ name ∈ type, IsName name) :
      Says element (.invalidValue element value type)
        ("'".toList ++ (value ++ '\'' :: (" is not a valid value of the ".toList ++
          (optional isLocal "local " ++ ("atomic type".toList ++ typeEnding type)))))
  | notListed {value allowed : List Char} (hvalue : '\'' ∉ value) (hallowed : '}' ∉ allowed) :
      Says element (.notListed element value allowed)
        ("[facet 'enumeration'] The value '".toList ++ (value ++ '\'' ::
          ((" is not an element of the set ".toList ++ ['{']) ++ (allowed ++ ['}', '.']))))
  | tooShort {value length limit : List Char} (hvalue : '\'' ∉ value) (hlength : IsNumber length)
      (hlimit : IsNumber limit) :
      Says element (.tooShort element value length limit)
        (lengthFault "minLength" "underruns the allowed minimum" value length limit)
  | tooLong {value length limit : List Char} (hvalue : '\'' ∉ value) (hlength : IsNumber length)
      (hlimit : IsNumber limit) :
      Says element (.tooLong element value length limit)
        (lengthFault "maxLength" "exceeds the allowed maximum" value length limit)
  | childInText : Says element (.childInText element)
      "Element content is not allowed, because the content type is a simple type definition.".toList
  | textInElement : Says element (.textInElement element)
      ("Character content other than whitespace is not allowed because the content type is " ++
        "'element-only'.").toList

/-- A whole message that says something about an element. -/
inductive Written : SchemaMessage → List Char → Prop
  | intro {element rest : List Char} {m : SchemaMessage} (helement : IsName element)
      (hsaid : Says element m rest) : Written m (about element rest)

/-! ## Reading -/

theorem before?_eq_some_iff {ending front : List Char} :
    before? ending cs = some front ↔ cs = front ++ ending := by
  rw [before?, Option.map_eq_some_iff]
  constructor
  · rintro ⟨back, hback, rfl⟩
    rw [after?_eq_some_iff] at hback
    simpa using congrArg List.reverse hback
  · rintro rfl
    exact ⟨front.reverse, after?_eq_some_iff.mpr (List.reverse_append ..), List.reverse_reverse _⟩

theorem upToQuote_eq_some_iff :
    upToQuote cs = some (value, rest) ↔ '\'' ∉ value ∧ cs = value ++ '\'' :: rest := by
  constructor
  · intro h
    have hcs := List.takeWhile_append_dropWhile (p := (· != '\'')) (l := cs)
    unfold upToQuote at h
    split at h
    · next c rest' hdrop =>
      cases h
      have hhead := List.head?_dropWhile_not (· != '\'') cs
      rw [hdrop] at hhead hcs
      obtain rfl : c = '\'' := by simpa using hhead
      refine ⟨fun hmem => ?_, hcs.symm⟩
      simpa using List.mem_takeWhile_imp hmem
    · cases h
  · rintro ⟨hvalue, rfl⟩
    exact ValueFault.upToQuote_append hvalue rest

/-- Words that may be left out are passed over if they are not the beginning of what follows. -/
theorem after?_optional_iff {words : String} {beginning : List Char}
    (h : ∀ rest, after? words.toList (beginning ++ rest) = none) :
    after? beginning ((after? words.toList cs).getD cs) = some rest ↔
      ∃ given, cs = optional given words ++ (beginning ++ rest) := by
  cases hwords : after? words.toList cs with
  | none =>
      rw [Option.getD_none, after?_eq_some_iff]
      constructor
      · rintro rfl
        exact ⟨false, rfl⟩
      · rintro ⟨_ | _, rfl⟩
        · rfl
        · rw [optional, if_pos rfl, after?_append] at hwords
          cases hwords
  | some rest' =>
      obtain rfl := after?_eq_some_iff.mp hwords
      rw [Option.getD_some, after?_eq_some_iff]
      constructor
      · rintro rfl
        exact ⟨true, rfl⟩
      · rintro ⟨_ | _, heq⟩
        · rw [show optional false words ++ (beginning ++ rest) = beginning ++ rest from rfl] at heq
          rw [heq, h] at hwords
          cases hwords
        · exact List.append_cancel_left heq

theorem subject?_eq_some_iff :
    subject? cs = some (element, rest) ↔ IsName element ∧ cs = about element rest := by
  simp only [subject?, Option.bind_eq_bind, Option.bind_eq_some_iff, after?_eq_some_iff, Prod.exists,
    upToQuote_eq_some_iff]
  constructor
  · rintro ⟨_, rfl, name, _, ⟨hquote, rfl⟩, h⟩
    obtain ⟨hne, h⟩ := Option.ite_none_left_eq_some.mp h
    obtain ⟨_, hrest, h⟩ := Option.bind_eq_some_iff.mp h
    cases h
    obtain rfl := after?_eq_some_iff.mp hrest
    exact ⟨⟨by simpa using hne, hquote⟩, rfl⟩
  · rintro ⟨⟨hne, hquote⟩, rfl⟩
    refine ⟨_, rfl, element, _, ⟨hquote, rfl⟩, ?_⟩
    rw [if_neg (by simpa using hne), after?_append]
    rfl

theorem expected?_eq_some_iff :
    expected? cs = some items ↔ IsItems items ∧ ∃ oneOf, cs = expectation oneOf items := by
  have hwords : ∀ rest, after? "one of ".toList ("( ".toList ++ rest) = none := fun _ => rfl
  simp only [expected?, Option.bind_eq_bind, Option.bind_eq_some_iff, after?_optional_iff hwords,
    before?_eq_some_iff]
  constructor
  · rintro ⟨_, hcs, _, ⟨oneOf, rfl⟩, _, rfl, h⟩
    obtain ⟨hitems, h⟩ := Option.ite_none_left_eq_some.mp h
    cases h
    rw [Bool.or_eq_true, not_or] at hitems
    exact ⟨⟨by simpa using hitems.1, by simpa using hitems.2⟩, oneOf, after?_eq_some_iff.mp hcs⟩
  · rintro ⟨⟨hne, hline⟩, oneOf, rfl⟩
    refine ⟨_, after?_append _ _, _, ⟨oneOf, rfl⟩, items, rfl, ?_⟩
    rw [if_neg (by simp [hne, hline])]

theorem typeAtEnd?_eq_some_iff {type : Option (List Char)} :
    typeAtEnd? cs = some type ↔ (∀ name ∈ type, IsName name) ∧ cs = typeEnding type := by
  unfold typeAtEnd?
  split
  · next hcs =>
    rw [beq_iff_eq] at hcs
    subst hcs
    cases type with
    | none => simp [typeEnding]
    | some name => simp [typeEnding]
  · next hcs =>
    simp only [Option.bind_eq_bind, Option.bind_eq_some_iff, after?_eq_some_iff, Prod.exists,
      upToQuote_eq_some_iff]
    constructor
    · rintro ⟨_, rfl, name, _, ⟨hquote, rfl⟩, h⟩
      obtain ⟨hname, h⟩ := Option.ite_none_left_eq_some.mp h
      cases h
      rw [Bool.or_eq_true, not_or] at hname
      obtain ⟨hne, hend⟩ := hname
      obtain rfl := by simpa using hend
      refine ⟨?_, rfl⟩
      rintro _ ⟨⟩
      exact ⟨by simpa using hne, hquote⟩
    · rintro ⟨htype, rfl⟩
      cases type with
      | none => exact absurd rfl hcs
      | some name =>
          obtain ⟨hne, hquote⟩ := htype name rfl
          refine ⟨_, rfl, name, _, ⟨hquote, rfl⟩, ?_⟩
          rw [if_neg (by simp [hne])]

theorem IsNumber.noQuote (h : IsNumber digits) : '\'' ∉ digits := by
  intro hmem
  have hdigit := List.all_eq_true.mp h.digits _ hmem
  exact absurd hdigit (by decide)

theorem number?_eq_some_iff :
    number? cs = some (digits, rest) ↔ IsNumber digits ∧ cs = digits ++ '\'' :: rest := by
  simp only [number?, Option.bind_eq_bind, Option.bind_eq_some_iff, Prod.exists, upToQuote_eq_some_iff]
  constructor
  · rintro ⟨_, _, ⟨-, rfl⟩, h⟩
    obtain ⟨hnumber, h⟩ := Option.ite_none_left_eq_some.mp h
    cases h
    rw [Bool.or_eq_true, not_or] at hnumber
    exact ⟨⟨by simpa using hnumber.1, by simpa using hnumber.2⟩, rfl⟩
  · rintro ⟨h, rfl⟩
    refine ⟨digits, rest, ⟨h.noQuote, rfl⟩, ?_⟩
    rw [if_neg (by simpa [h.ne_nil] using List.all_eq_true.mp h.digits)]

theorem wrongLength?_eq_some_iff {facet comparison : String} {length limit : List Char} :
    wrongLength? facet comparison cs = some (value, length, limit) ↔
      '\'' ∉ value ∧ IsNumber length ∧ IsNumber limit ∧
        cs = lengthFault facet comparison value length limit := by
  simp only [wrongLength?, Option.bind_eq_bind, Option.bind_eq_some_iff, after?_eq_some_iff, Prod.exists,
    upToQuote_eq_some_iff, number?_eq_some_iff]
  constructor
  · rintro ⟨_, rfl, _, _, ⟨hvalue, rfl⟩, _, rfl, _, _, ⟨hlength, rfl⟩, _, rfl, _, _, ⟨hlimit, rfl⟩, h⟩
    obtain ⟨hend, h⟩ := Option.ite_none_right_eq_some.mp h
    cases h
    obtain rfl := by simpa using hend
    exact ⟨hvalue, hlength, hlimit, rfl⟩
  · rintro ⟨hvalue, hlength, hlimit, rfl⟩
    exact ⟨_, rfl, _, _, ⟨hvalue, rfl⟩, _, rfl, _, _, ⟨hlength, rfl⟩, _, rfl, _, _, ⟨hlimit, rfl⟩, rfl⟩

/-! ## Forms -/

/-- A form of what a message says about an element. -/
abbrev Form := List Char → List Char → Option SchemaMessage

variable {form other : Form}

/-- What a form reads is said in that form. -/
theorem says_of_form (hform : form ∈ forms) (h : form element cs = some m) : Says element m cs := by
  simp only [forms, List.mem_cons, List.not_mem_nil, or_false] at hform
  rcases hform with rfl | rfl | rfl | rfl | rfl | rfl | rfl | rfl
  · simp only [incomplete?, Option.bind_eq_bind, Option.bind_eq_some_iff, after?_eq_some_iff,
      expected?_eq_some_iff] at h
    obtain ⟨_, rfl, items, ⟨hitems, oneOf, rfl⟩, ⟨⟩⟩ := h
    exact .incomplete oneOf hitems
  · simp only [notExpected?, Option.bind_eq_bind, Option.bind_eq_some_iff, after?_eq_some_iff] at h
    obtain ⟨rest, rfl, h⟩ := h
    split at h
    · next hrest =>
      cases h
      rw [List.isEmpty_iff.mp hrest, List.append_nil]
      exact .notExpected
    · simp only [Option.bind_eq_some_iff, after?_eq_some_iff, expected?_eq_some_iff] at h
      obtain ⟨_, rfl, items, ⟨hitems, oneOf, rfl⟩, ⟨⟩⟩ := h
      exact .insteadOf oneOf hitems
  · have hlocal : ∀ rest, after? "local ".toList ("atomic type".toList ++ rest) = none := fun _ => rfl
    simp only [invalidValue?, Option.bind_eq_bind, Option.bind_eq_some_iff, Prod.exists,
      after?_optional_iff hlocal, upToQuote_eq_some_iff, typeAtEnd?_eq_some_iff] at h
    obtain ⟨_, hcs, value, _, ⟨hvalue, rfl⟩, _, hrest, _, ⟨isLocal, rfl⟩, type, ⟨htype, rfl⟩, ⟨⟩⟩ := h
    obtain rfl := after?_eq_some_iff.mp hcs
    obtain rfl := after?_eq_some_iff.mp hrest
    exact .invalidValue isLocal hvalue htype
  · simp only [notListed?, Option.bind_eq_bind, Option.bind_eq_some_iff, after?_eq_some_iff, Prod.exists,
      upToQuote_eq_some_iff] at h
    obtain ⟨_, rfl, value, _, ⟨hvalue, rfl⟩, allowed, rfl, h⟩ := h
    obtain ⟨hend, ⟨⟩⟩ := Option.ite_none_right_eq_some.mp h
    have hsplit := List.takeWhile_append_dropWhile (p := (· != '}')) (l := allowed)
    rw [eq_of_beq hend] at hsplit
    have hallowed : '}' ∉ allowed.takeWhile (· != '}') := fun hmem => by
      simpa using List.mem_takeWhile_imp hmem
    have hsaid := @Says.notListed element _ _ hvalue hallowed
    rwa [hsplit] at hsaid
  · obtain ⟨⟨value, length, limit⟩, hread, ⟨⟩⟩ := Option.map_eq_some_iff.mp h
    obtain ⟨hvalue, hlength, hlimit, rfl⟩ := wrongLength?_eq_some_iff.mp hread
    exact .tooShort hvalue hlength hlimit
  · obtain ⟨⟨value, length, limit⟩, hread, ⟨⟩⟩ := Option.map_eq_some_iff.mp h
    obtain ⟨hvalue, hlength, hlimit, rfl⟩ := wrongLength?_eq_some_iff.mp hread
    exact .tooLong hvalue hlength hlimit
  · obtain ⟨hcs, ⟨⟩⟩ := Option.ite_none_right_eq_some.mp h
    rw [eq_of_beq hcs]
    exact .childInText
  · obtain ⟨hcs, ⟨⟩⟩ := Option.ite_none_right_eq_some.mp h
    rw [eq_of_beq hcs]
    exact .textInElement

/-- What is said in a form is read by it. -/
theorem exists_form_of_says (h : Says element m cs) : ∃ form ∈ forms, form element cs = some m := by
  cases h with
  | incomplete oneOf hitems =>
      refine ⟨incomplete?, by simp [forms], ?_⟩
      rw [incomplete?, after?_append, Option.bind_eq_bind, Option.bind_some,
        expected?_eq_some_iff.mpr ⟨hitems, oneOf, rfl⟩]
      rfl
  | notExpected => exact ⟨notExpected?, by simp [forms], rfl⟩
  | insteadOf oneOf hitems =>
      refine ⟨notExpected?, by simp [forms], ?_⟩
      rw [notExpected?, after?_append, Option.bind_eq_bind, Option.bind_some, if_neg (by simp),
        after?_append, Option.bind_some, expected?_eq_some_iff.mpr ⟨hitems, oneOf, rfl⟩]
      rfl
  | @invalidValue value type isLocal hvalue htype =>
      have hlocal : ∀ rest, after? "local ".toList ("atomic type".toList ++ rest) = none := fun _ => rfl
      refine ⟨invalidValue?, by simp [forms], ?_⟩
      simp only [invalidValue?, Option.bind_eq_bind, Option.bind_eq_some_iff, Prod.exists,
        after?_optional_iff hlocal, upToQuote_eq_some_iff, typeAtEnd?_eq_some_iff]
      exact ⟨_, after?_append _ _, value, _, ⟨hvalue, rfl⟩, _, after?_append _ _, _, ⟨isLocal, rfl⟩,
        type, ⟨htype, rfl⟩, rfl⟩
  | @notListed value allowed hvalue hallowed =>
      have hchars := ValueFault.forall_bne_of_notMem hallowed
      refine ⟨notListed?, by simp [forms], ?_⟩
      simp only [notListed?, after?_append, ValueFault.upToQuote_append hvalue, Option.bind_eq_bind,
        Option.bind_some, List.takeWhile_append_of_pos hchars, List.dropWhile_append_of_pos hchars]
      simp
  | @tooShort value length limit hvalue hlength hlimit =>
      refine ⟨tooShort?, by simp [forms], ?_⟩
      rw [tooShort?, wrongLength?_eq_some_iff.mpr ⟨hvalue, hlength, hlimit, rfl⟩]
      rfl
  | @tooLong value length limit hvalue hlength hlimit =>
      refine ⟨tooLong?, by simp [forms], ?_⟩
      rw [tooLong?, wrongLength?_eq_some_iff.mpr ⟨hvalue, hlength, hlimit, rfl⟩]
      rfl
  | childInText => exact ⟨childInText?, by simp [forms], rfl⟩
  | textInElement => exact ⟨textInElement?, by simp [forms], rfl⟩

/-! ## One form at most -/

/-- The forms, with the words that each begins with. -/
def worded : List (String × Form) :=
  [("Missing child element(s). ", incomplete?), ("This element is not expected.", notExpected?),
    ("'", invalidValue?), ("[facet 'enumeration'] The value '", notListed?),
    ("[facet 'minLength'] The value '", tooShort?), ("[facet 'maxLength'] The value '", tooLong?),
    ("Element content is not allowed", childInText?), ("Character content", textInElement?)]

theorem forms_eq_map_worded : forms = worded.map Prod.snd := rfl

theorem prefix_of_form {p : String × Form} (hp : p ∈ worded) (h : p.2 element cs = some m) :
    p.1.toList <+: cs := by
  have hafter : ∀ {words rest}, after? words cs = some rest → words <+: cs := fun h =>
    ⟨_, (after?_eq_some_iff.mp h).symm⟩
  simp only [worded, List.mem_cons, List.not_mem_nil, or_false] at hp
  rcases hp with rfl | rfl | rfl | rfl | rfl | rfl | rfl | rfl
  · obtain ⟨rest, hrest, -⟩ := Option.bind_eq_some_iff.mp h
    exact hafter hrest
  · obtain ⟨rest, hrest, -⟩ := Option.bind_eq_some_iff.mp h
    exact hafter hrest
  · obtain ⟨rest, hrest, -⟩ := Option.bind_eq_some_iff.mp h
    exact hafter hrest
  · obtain ⟨rest, hrest, -⟩ := Option.bind_eq_some_iff.mp h
    exact hafter hrest
  · obtain ⟨_, hread, -⟩ := Option.map_eq_some_iff.mp h
    obtain ⟨rest, hrest, -⟩ := Option.bind_eq_some_iff.mp hread
    exact hafter hrest
  · obtain ⟨_, hread, -⟩ := Option.map_eq_some_iff.mp h
    obtain ⟨rest, hrest, -⟩ := Option.bind_eq_some_iff.mp hread
    exact hafter hrest
  · obtain ⟨hcs, -⟩ := Option.ite_none_right_eq_some.mp h
    rw [eq_of_beq hcs]
    exact List.isPrefixOf_iff_prefix.mp (by decide)
  · obtain ⟨hcs, -⟩ := Option.ite_none_right_eq_some.mp h
    rw [eq_of_beq hcs]
    exact List.isPrefixOf_iff_prefix.mp (by decide)

/-- No form begins with the words of another one. -/
theorem pairwise_worded : worded.Pairwise fun p q =>
    ¬ p.1.toList <+: q.1.toList ∧ ¬ q.1.toList <+: p.1.toList := by
  decide +kernel

/-- A whole message is read in a form. -/
def whole? (form : Form) (cs : List Char) : Option SchemaMessage :=
  (subject? cs).bind fun (element, rest) => form element rest

theorem pairwise_whole? : forms.Pairwise fun form other =>
    ∀ cs, whole? form cs = none ∨ whole? other cs = none := by
  rw [forms_eq_map_worded, List.pairwise_map]
  refine pairwise_worded.imp_of_mem fun {p q} hp hq hne cs => ?_
  by_contra h
  simp only [not_or, Option.ne_none_iff_exists', whole?, Option.bind_eq_some_iff] at h
  -- both forms read behind the same element, so that the words of one begin those of the other
  obtain ⟨⟨m, ⟨element, rest⟩, hsubject, hm⟩, m', s, hsubject', hm'⟩ := h
  cases hsubject.symm.trans hsubject'
  rcases List.prefix_or_prefix_of_prefix (prefix_of_form hp hm) (prefix_of_form hq hm') with h | h
  · exact hne.1 h
  · exact hne.2 h

theorem written_iff : Written m cs ↔ ∃ form ∈ forms, whole? form cs = some m := by
  constructor
  · rintro ⟨helement, hsaid⟩
    obtain ⟨form, hform, hread⟩ := exists_form_of_says hsaid
    refine ⟨form, hform, ?_⟩
    rw [whole?, subject?_eq_some_iff.mpr ⟨helement, rfl⟩]
    exact hread
  · rintro ⟨form, hform, h⟩
    obtain ⟨⟨element, rest⟩, hsubject, hread⟩ := Option.bind_eq_some_iff.mp h
    obtain ⟨helement, rfl⟩ := subject?_eq_some_iff.mp hsubject
    exact .intro helement (says_of_form hform hread)

/-! ## Tables of forms -/

/-- Where at most one entry gives something, it does not matter which entry is asked first. -/
theorem findSome?_eq_some_iff_of_pairwise {α β : Type} {f : α → Option β} {xs : List α} {b : β}
    (h : xs.Pairwise fun x y => f x = none ∨ f y = none) :
    xs.findSome? f = some b ↔ ∃ x ∈ xs, f x = some b := by
  constructor
  · exact List.exists_of_findSome?_eq_some
  · rintro ⟨x, hx, hb⟩
    obtain ⟨before, after, rfl⟩ := List.append_of_mem hx
    refine List.findSome?_eq_some_iff.mpr ⟨before, x, after, rfl, hb, fun y hy => ?_⟩
    refine ((List.pairwise_append.mp h).2.2 y hy x List.mem_cons_self).resolve_right ?_
    rw [hb]
    exact Option.some_ne_none b

/-- What a message says by a table of forms that are tried in order. -/
def readBy? (table : List Form) (cs : List Char) : Option SchemaMessage :=
  table.findSome? fun form => whole? form cs

/-- A message without its namespaces and without the blanks around it. -/
def stripped (message : String) : List Char := withoutNamespaces (trimChars message.toList)

/-- A schema message in plain words by a table of forms. -/
def readableBy (table : List Form) (message : String) (line : Option Int) : String :=
  lineText line (((readBy? table (stripped message)).map text).getD (String.ofList (stripped message)))

theorem readBy?_forms (cs : List Char) : readBy? forms cs = read? cs := by
  unfold readBy? whole? read?
  cases subject? cs <;> rfl

theorem readableBy_forms : readableBy forms = readable := by
  funext message line
  rw [readable_eq_lineText, readableBy, readBy?_forms]
  rfl

theorem readBy?_eq_some_iff {table : List Form} (h : table.Perm forms) :
    readBy? table cs = some m ↔ Written m cs := by
  have hpairwise : table.Pairwise fun form other => ∀ cs, whole? form cs = none ∨ whole? other cs = none :=
    (h.pairwise_iff fun hor cs => (hor cs).symm).mpr pairwise_whole?
  rw [readBy?, findSome?_eq_some_iff_of_pairwise (hpairwise.imp fun hor => hor cs), written_iff]
  simp only [h.mem_iff]

/-- What a message says is unique, and so is its form. -/
theorem Written.unique (h : Written m cs) (h' : Written m' cs) : m = m' := by
  have hread := (readBy?_eq_some_iff (.refl forms)).mpr h
  have hread' := (readBy?_eq_some_iff (.refl forms)).mpr h'
  exact Option.some.inj (hread.symm.trans hread')

/-- At most one form reads a message, and what is read is what is written in one of the eight forms. So
every order of the table gives the same words, and a message of no form is told without its namespaces and
without the blanks around it, and otherwise as it is. -/
theorem forms_exclusive :
    (forms.Pairwise fun form other => ∀ cs, whole? form cs = none ∨ whole? other cs = none) ∧
      (∀ cs m, Written m cs ↔ ∃ form ∈ forms, whole? form cs = some m) ∧
      (∀ cs m m', Written m cs → Written m' cs → m = m') ∧
      (∀ table : List Form, table.Perm forms → readableBy table = readable) ∧
      ∀ message line, (∀ m, ¬ Written m (stripped message)) →
        readable message line = lineText line (String.ofList (stripped message)) := by
  refine ⟨pairwise_whole?, fun cs m => written_iff, fun cs m m' => Written.unique, fun table h => ?_,
    fun message line h => ?_⟩
  · have hread : readBy? table = readBy? forms := by
      funext cs
      refine Option.ext fun m => ?_
      rw [readBy?_eq_some_iff h, readBy?_eq_some_iff (.refl forms)]
    rw [← readableBy_forms]
    funext message line
    rw [readableBy, readableBy, hread]
  · have hread : readBy? forms (stripped message) = none :=
      Option.eq_none_iff_forall_ne_some.mpr fun m hm =>
        h m ((readBy?_eq_some_iff (.refl forms)).mp hm)
    rw [← readableBy_forms, readableBy, hread]
    rfl

theorem forms_exclusive_of_reverse :
    readableBy forms.reverse "Element '\x7burn:x\x7dNote': This element is not expected." (some 7) =
        "Line 7: Element 'Note' is not allowed here." ∧
      readable " Element '\x7burn:x\x7dNote' is odd. " none = "Element 'Note' is odd." := by
  obtain ⟨-, hwritten, -, htable, hnone⟩ := forms_exclusive
  constructor
  · rw [htable _ (List.reverse_perm forms)]
    decide +kernel
  · refine (hnone _ none fun m hm => ?_).trans (by decide +kernel)
    obtain ⟨form, -, hread⟩ := (hwritten _ m).mp hm
    have hsubject : subject? (stripped " Element '\x7burn:x\x7dNote' is odd. ") = none := by
      decide +kernel
    rw [whole?, hsubject] at hread
    cases hread

end Conformity.SchemaMessage
