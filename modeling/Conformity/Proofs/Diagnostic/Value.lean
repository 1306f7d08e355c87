import Mathlib.Data.List.TakeWhile
import Conformity.Proofs.Diagnostic.Qualified
import Conformity.Proofs.Text.Trim

/-!
# Messages about values

A schema validator finds four kinds of fault with the value of an element (`ValueFault`), and words each
in its own way (`ValueFault.message`). The reader of messages knows all four (`ValueFault.read?_message`),
but it reads what is left when the namespaces are dropped, and a value that holds a qualified name has
lost characters by then. So the element and the value are told as they are exactly if the value holds no
qualified name, the name of the element is found behind its namespace, and no listed value ends the list
early (`readable_message_iff`).
-/

namespace Conformity.SchemaMessage

open Text

/-- What is wrong with a value. -/
inductive ValueFault where
  /-- Its type, which may have a name, does not have it. -/
  | invalid (isLocal : Bool) (type : Option (List Char))
  /-- It is not among the listed values. -/
  | notListed (values : List (List Char))
  /-- Its length is less than the limit. -/
  | tooShort (length limit : Nat)
  /-- Its length is more than the limit. -/
  | tooLong (length limit : Nat)

namespace ValueFault

/-! ## The words of a validator -/

/-- A text between apostrophes. -/
def quoted (cs : List Char) : String := "'" ++ String.ofList cs ++ "'"

/-- Values between apostrophes, with commas in between. -/
def listing : List (List Char) → String
  | [] => ""
  | [value] => quoted value
  | value :: values => quoted value ++ ", " ++ listing values

/-- The name of a type, if it has one. -/
def typeEnd : Option (List Char) → String
  | some name => " " ++ quoted name
  | none => ""

/-- The words for a value that a facet does not allow. -/
def facetValue (facet : String) (value : List Char) : String :=
  "[facet '" ++ facet ++ "'] The value " ++ quoted value

/-- A length that a facet does not allow. -/
def wrongLength (facet comparison : String) (value : List Char) (length limit : Nat) : String :=
  facetValue facet value ++ " has a length of '" ++ toString length ++ "'; this " ++ comparison ++
    " length of '" ++ toString limit ++ "'."

/-- A value and what is wrong with it. -/
def complaint (value : List Char) : ValueFault → String
  | invalid isLocal type =>
    quoted value ++ " is not a valid value of the " ++ (if isLocal then "local " else "") ++
      "atomic type" ++ typeEnd type ++ "."
  | notListed values =>
    facetValue "enumeration" value ++ " is not an element of the set \x7b" ++ listing values ++ "\x7d."
  | tooShort length limit =>
    wrongLength "minLength" "underruns the allowed minimum" value length limit
  | tooLong length limit =>
    wrongLength "maxLength" "exceeds the allowed maximum" value length limit

/-- The message about a value of an element. -/
def message (element value : List Char) (fault : ValueFault) : String :=
  "Element " ++ quoted element ++ ": " ++ fault.complaint value

/-- What the message says. -/
def said (element value : List Char) : ValueFault → SchemaMessage
  | invalid _ type => .invalidValue element value type
  | notListed values => .notListed element value (listing values).toList
  | tooShort length limit => .tooShort element value (toString length).toList (toString limit).toList
  | tooLong length limit => .tooLong element value (toString length).toList (toString limit).toList

/-! ## The words of a reader -/

/-- The beginning of a sentence, up to the value of an element. -/
def opening (element : List Char) (verdict : String) (value : List Char) : String :=
  "Element " ++ quoted element ++ " " ++ verdict ++ " " ++ quoted value

/-- The sentence about a value of an element. -/
def sentence (element value : List Char) : ValueFault → String
  | invalid _ none => opening element "has invalid value" value ++ "."
  | invalid _ (some type) =>
    opening element "has invalid value" value ++ "; expected " ++ typeText type ++ "."
  | notListed values =>
    opening element "has invalid value" value ++ "; allowed values: " ++
      listedText (listing values).toList ++ "."
  | tooShort length limit =>
    opening element "value" value ++ " is too short (" ++ toString length ++ " characters, minimum " ++
      toString limit ++ ")."
  | tooLong length limit =>
    opening element "value" value ++ " is too long (" ++ toString length ++ " characters, maximum " ++
      toString limit ++ ")."

/-! ## Faults without namespaces -/

/-- The fault without the namespaces in its names. -/
def plain : ValueFault → ValueFault
  | invalid isLocal type => invalid isLocal (type.map withoutNamespaces)
  | notListed values => notListed (values.map withoutNamespaces)
  | tooShort length limit => tooShort length limit
  | tooLong length limit => tooLong length limit

/-- An invalid value is not empty, and the name of a type has characters but no apostrophe. -/
def Fits (value : List Char) : ValueFault → Prop
  | invalid _ type => value ≠ [] ∧ ∀ name ∈ type, name ≠ [] ∧ '\'' ∉ name
  | _ => True

/-- No listed value ends the list early. -/
def IsClosed : ValueFault → Prop
  | notListed values => ∀ value ∈ values, '}' ∉ value
  | _ => True

instance : (fault : ValueFault) → Decidable fault.IsClosed
  | notListed values => inferInstanceAs (Decidable (∀ value ∈ values, '}' ∉ value))
  | invalid .. | tooShort .. | tooLong .. => inferInstanceAs (Decidable True)

variable {element value : List Char} {fault : ValueFault}

/-! ## Messages as characters -/

theorem toList_message (element value : List Char) (fault : ValueFault) :
    (fault.message element value).toList =
      "Element '".toList ++ (element ++ '\'' :: (": ".toList ++ (fault.complaint value).toList)) := by
  simp [message, quoted]

theorem toList_typeEnd_some (name : List Char) :
    (typeEnd (some name)).toList = " '".toList ++ (name ++ '\'' :: []) := by
  simp [typeEnd, quoted]

theorem toList_invalid (value : List Char) (isLocal : Bool) (type : Option (List Char)) :
    ((invalid isLocal type).complaint value).toList =
      "'".toList ++ (value ++ '\'' :: (" is not a valid value of the ".toList ++
        ((if isLocal then "local " else "").toList ++
          ("atomic type".toList ++ ((typeEnd type).toList ++ ['.']))))) := by
  simp [complaint, quoted]

theorem toList_notListed (value : List Char) (values : List (List Char)) :
    ((notListed values).complaint value).toList =
      "[facet 'enumeration'] The value '".toList ++ (value ++ '\'' ::
        (" is not an element of the set ".toList ++ '{' :: ((listing values).toList ++ ['}', '.']))) := by
  simp [complaint, facetValue, quoted]

theorem toList_wrongLength (facet comparison : String) (value : List Char) (length limit : Nat) :
    (wrongLength facet comparison value length limit).toList =
      ("[facet '" ++ facet ++ "'] The value '").toList ++ (value ++ '\'' ::
        (" has a length of '".toList ++ ((toString length).toList ++ '\'' ::
          (("; this " ++ comparison ++ " length of '").toList ++
            ((toString limit).toList ++ '\'' :: ['.']))))) := by
  simp [wrongLength, facetValue, quoted]

/-! ## Dropping namespaces -/

theorem Fits.plain (h : fault.Fits value) : fault.plain.Fits (withoutNamespaces value) := by
  cases fault with
  | invalid isLocal type =>
      refine ⟨withoutNamespaces_eq_nil_iff.not.mpr h.1, ?_⟩
      intro name hname
      obtain ⟨long, hlong, rfl⟩ := Option.map_eq_some_iff.mp hname
      obtain ⟨hne, hquote⟩ := h.2 long hlong
      exact ⟨withoutNamespaces_eq_nil_iff.not.mpr hne,
        fun hmem => hquote ((withoutNamespaces_sublist long).subset hmem)⟩
  | _ => trivial

theorem notMem_toString {c : Char} (hc : c.isDigit = false) (n : Nat) : c ∉ (toString n).toList := by
  intro h
  have hdigits : c ∈ Nat.toDigits 10 n := by simpa using h
  rw [Nat.isDigit_of_mem_toDigits (by decide) (by decide) hdigits] at hc
  cases hc

theorem withoutNamespaces_quoted (value more : List Char) :
    withoutNamespaces ((quoted value).toList ++ more) =
      (quoted (withoutNamespaces value)).toList ++ withoutNamespaces more := by
  have h : ∀ cs rest : List Char, (quoted cs).toList ++ rest = ['\''] ++ (cs ++ '\'' :: rest) := by
    simp [quoted]
  rw [h, withoutNamespaces_append_of_notMem (by decide), withoutNamespaces_append_quote, ← h]

theorem withoutNamespaces_listing (values : List (List Char)) (more : List Char) :
    withoutNamespaces ((listing values).toList ++ more) =
      (listing (values.map withoutNamespaces)).toList ++ withoutNamespaces more := by
  induction values with
  | nil => rfl
  | cons value values ih =>
      cases values with
      | nil => exact withoutNamespaces_quoted value more
      | cons next values =>
          simp (disch := decide) only [listing, List.map_cons, String.toList_append, List.append_assoc,
            withoutNamespaces_quoted, withoutNamespaces_append_of_notMem]
          rw [ih]
          rfl

theorem withoutNamespaces_typeEnd (type : Option (List Char)) (more : List Char) :
    withoutNamespaces ((typeEnd type).toList ++ more) =
      (typeEnd (type.map withoutNamespaces)).toList ++ withoutNamespaces more := by
  cases type with
  | none => rfl
  | some name =>
      simp (disch := decide) only [typeEnd, Option.map_some, String.toList_append, List.append_assoc,
        withoutNamespaces_quoted, withoutNamespaces_append_of_notMem]

theorem withoutNamespaces_wrongLength {facet comparison : String} (hfacet : '{' ∉ facet.toList)
    (hcomparison : '{' ∉ comparison.toList) (value : List Char) (length limit : Nat) :
    withoutNamespaces (wrongLength facet comparison value length limit).toList =
      (wrongLength facet comparison (withoutNamespaces value) length limit).toList := by
  have hdigits := notMem_toString (by decide : Char.isDigit '{' = false)
  have hfront : '{' ∉ ("[facet '" ++ facet ++ "'] The value '").toList := by simp [hfacet]
  have hmiddle : '{' ∉ ("; this " ++ comparison ++ " length of '").toList := by simp [hcomparison]
  simp (disch := decide) only [toList_wrongLength, withoutNamespaces_append_quote,
    withoutNamespaces_append_of_notMem hfront, withoutNamespaces_append_of_notMem hmiddle,
    withoutNamespaces_append_of_notMem, withoutNamespaces_of_notMem (hdigits _),
    withoutNamespaces_of_notMem]

/-- The brace before a list is followed by an apostrophe or by the other brace, so no name begins there. -/
theorem not_qualified_listing (values : List (List Char)) (rest : List Char) :
    ¬ Qualified ('{' :: ((listing values).toList ++ ['}', '.'])) rest := by
  intro h
  obtain ⟨-, n, hn, -⟩ := qualified_cons_iff.mp h
  have hnone : namespaceLength? ((listing values).toList ++ ['}', '.']) = none := by
    rcases values with _ | ⟨value, _ | ⟨next, values⟩⟩
    · rfl
    · simp only [listing, quoted, String.toList_append, List.append_assoc]
      rfl
    · simp only [listing, quoted, String.toList_append, List.append_assoc]
      rfl
  rw [hnone] at hn
  cases hn

theorem withoutNamespaces_complaint (value : List Char) (fault : ValueFault) :
    withoutNamespaces (fault.complaint value).toList =
      (fault.plain.complaint (withoutNamespaces value)).toList := by
  cases fault with
  | invalid isLocal type =>
      have hlocal : '{' ∉ (if isLocal then "local " else "").toList := by cases isLocal <;> decide
      simp (disch := decide) only [plain, toList_invalid, withoutNamespaces_append_quote,
        withoutNamespaces_typeEnd, withoutNamespaces_append_of_notMem hlocal,
        withoutNamespaces_append_of_notMem, withoutNamespaces_of_notMem]
  | notListed values =>
      simp (disch := decide) only [plain, toList_notListed, withoutNamespaces_append_quote,
        withoutNamespaces_append_of_notMem, withoutNamespaces_cons (not_qualified_listing values),
        withoutNamespaces_listing, withoutNamespaces_of_notMem]
  | tooShort length limit => exact withoutNamespaces_wrongLength (by decide) (by decide) _ _ _
  | tooLong length limit => exact withoutNamespaces_wrongLength (by decide) (by decide) _ _ _

theorem withoutNamespaces_message (element value : List Char) (fault : ValueFault) :
    withoutNamespaces (fault.message element value).toList =
      (fault.plain.message (withoutNamespaces element) (withoutNamespaces value)).toList := by
  simp (disch := decide) only [toList_message, withoutNamespaces_append_quote,
    withoutNamespaces_complaint, withoutNamespaces_append_of_notMem]

/-! ## Reading a message -/

theorem forall_bne_of_notMem {c : Char} {cs : List Char} (h : c ∉ cs) : ∀ d ∈ cs, (d != c) = true := by
  intro d hd
  rw [bne_iff_ne]
  rintro rfl
  exact h hd

theorem upToQuote_append {cs : List Char} (h : '\'' ∉ cs) (rest : List Char) :
    upToQuote (cs ++ '\'' :: rest) = some (cs, rest) := by
  have hcs := forall_bne_of_notMem h
  simp [upToQuote, List.takeWhile_append_of_pos hcs, List.dropWhile_append_of_pos hcs]

theorem isDigit_of_ascii {c : Char} (h : c.isDigit) : Text.isDigit c := by
  rw [Char.isDigit_iff_toNat] at h
  exact inRanges_iff.mpr ⟨_, List.mem_cons_self, h⟩

theorem number?_toString (n : Nat) (rest : List Char) :
    number? ((toString n).toList ++ '\'' :: rest) = some ((toString n).toList, rest) := by
  have hdigits : ∀ c ∈ Nat.toDigits 10 n, Text.isDigit c := fun c hc =>
    isDigit_of_ascii (Nat.isDigit_of_mem_toDigits (by decide) (by decide) hc)
  have hne : Nat.toDigits 10 n ≠ [] := Nat.toDigits_ne_nil
  rw [number?, upToQuote_append (notMem_toString (by decide) n)]
  simpa [hne] using hdigits

theorem wrongLength?_wrongLength (facet comparison : String) (hvalue : '\'' ∉ value)
    (length limit : Nat) :
    wrongLength? facet comparison (wrongLength facet comparison value length limit).toList =
      some (value, (toString length).toList, (toString limit).toList) := by
  simp only [wrongLength?, toList_wrongLength, after?_append, upToQuote_append hvalue,
    number?_toString, Option.bind_eq_bind, Option.bind_some]
  rfl

theorem tooShort?_complaint (hvalue : '\'' ∉ value) (length limit : Nat) :
    tooShort? element ((tooShort length limit).complaint value).toList =
      some ((tooShort length limit).said element value) := by
  rw [tooShort?, complaint, wrongLength?_wrongLength _ _ hvalue]
  rfl

theorem tooLong?_complaint (hvalue : '\'' ∉ value) (length limit : Nat) :
    tooLong? element ((tooLong length limit).complaint value).toList =
      some ((tooLong length limit).said element value) := by
  rw [tooLong?, complaint, wrongLength?_wrongLength _ _ hvalue]
  rfl

theorem typeAtEnd?_typeEnd {type : Option (List Char)}
    (h : ∀ name ∈ type, name ≠ [] ∧ '\'' ∉ name) :
    typeAtEnd? ((typeEnd type).toList ++ ['.']) = some type := by
  cases type with
  | none => rfl
  | some name =>
      obtain ⟨hne, hquote⟩ := h name rfl
      have hlong : ¬ ((" '".toList ++ (name ++ '\'' :: ['.'])) == ['.']) := by simp
      rw [toList_typeEnd_some, List.append_assoc, List.append_assoc, List.cons_append, List.nil_append,
        typeAtEnd?, if_neg hlong, after?_append]
      simp [upToQuote_append hquote, hne]

theorem invalidValue?_complaint {isLocal : Bool} {type : Option (List Char)} (hvalue : '\'' ∉ value)
    (h : ∀ name ∈ type, name ≠ [] ∧ '\'' ∉ name) :
    invalidValue? element ((invalid isLocal type).complaint value).toList =
      some (.invalidValue element value type) := by
  have hlocal : ∀ rest, (after? "local ".toList ((if isLocal then "local " else "").toList ++
      ("atomic type".toList ++ rest))).getD ((if isLocal then "local " else "").toList ++
        ("atomic type".toList ++ rest)) = "atomic type".toList ++ rest := by
    cases isLocal <;> exact fun _ => rfl
  simp only [invalidValue?, toList_invalid, after?_append, upToQuote_append hvalue, hlocal,
    typeAtEnd?_typeEnd h, Option.bind_eq_bind, Option.bind_some, Option.pure_def]

theorem brace_mem_listing_iff {values : List (List Char)} :
    '}' ∈ (listing values).toList ↔ ∃ value ∈ values, '}' ∈ value := by
  induction values with
  | nil => simp [listing]
  | cons value values ih => cases values <;> simp_all [listing, quoted]

/-- A list is read to the first closing brace, which has to be its end. -/
theorem notListed?_complaint (hvalue : '\'' ∉ value) (values : List (List Char)) :
    notListed? element ((notListed values).complaint value).toList =
      if (notListed values).IsClosed then some (.notListed element value (listing values).toList)
      else none := by
  have hset : " is not an element of the set ".toList ++ '{' :: ((listing values).toList ++ ['}', '.']) =
      (" is not an element of the set ".toList ++ ['{']) ++ ((listing values).toList ++ ['}', '.']) :=
    List.append_cons ..
  rw [notListed?, toList_notListed, after?_append]
  simp only [upToQuote_append hvalue, hset, after?_append, Option.bind_eq_bind, Option.bind_some]
  have hiff : (notListed values).IsClosed ↔ '}' ∉ (listing values).toList := by
    simp [IsClosed, brace_mem_listing_iff]
  by_cases hbrace : '}' ∈ (listing values).toList
  · obtain ⟨front, back, hlist, hfront⟩ := List.eq_append_cons_of_mem hbrace
    have hchars := forall_bne_of_notMem hfront
    rw [if_neg (hiff.not.mpr (not_not.mpr hbrace)), hlist]
    have hmore : back ++ ['}', '.'] ≠ ['.'] := fun h => by simpa using congrArg List.length h
    simp [List.dropWhile_append_of_pos hchars, hmore]
  · have hchars := forall_bne_of_notMem hbrace
    rw [if_pos (hiff.mpr hbrace)]
    simp [List.takeWhile_append_of_pos hchars, List.dropWhile_append_of_pos hchars]

theorem subject?_message (helement : element ≠ []) (hquote : '\'' ∉ element) :
    subject? (fault.message element value).toList = some (element, (fault.complaint value).toList) := by
  rw [subject?, toList_message, after?_append]
  simp only [upToQuote_append hquote, after?_append, Option.bind_eq_bind, Option.bind_some]
  simp [helement]

/-- Every message about a value is read as what it says, unless a listed value ends the list. -/
theorem read?_message (helement : element ≠ []) (hquote : '\'' ∉ element) (hvalue : '\'' ∉ value)
    (hfits : fault.Fits value) :
    read? (fault.message element value).toList =
      if fault.IsClosed then some (fault.said element value) else none := by
  rw [read?, subject?_message helement hquote]
  dsimp only
  cases fault with
  | invalid isLocal type =>
      refine List.findSome?_eq_some_iff.mpr ⟨[incomplete?, notExpected?], invalidValue?, _, rfl,
        invalidValue?_complaint hvalue hfits.2, ?_⟩
      rw [toList_invalid]
      simp only [List.forall_mem_cons]
      exact ⟨rfl, rfl, by simp⟩
  | notListed values =>
      have hbefore : ∀ form ∈ [incomplete?, notExpected?, invalidValue?],
          form element ((notListed values).complaint value).toList = none := by
        rw [toList_notListed]
        simp only [List.forall_mem_cons]
        exact ⟨rfl, rfl, rfl, by simp⟩
      have hafter : ∀ form ∈ [tooShort?, tooLong?, childInText?, textInElement?],
          form element ((notListed values).complaint value).toList = none := by
        rw [toList_notListed]
        simp only [List.forall_mem_cons]
        exact ⟨rfl, rfl, rfl, rfl, by simp⟩
      have hread : notListed? element ((notListed values).complaint value).toList =
          if (notListed values).IsClosed then some ((notListed values).said element value) else none :=
        notListed?_complaint hvalue values
      by_cases hclosed : (notListed values).IsClosed
      · rw [if_pos hclosed] at hread ⊢
        exact List.findSome?_eq_some_iff.mpr ⟨_, notListed?, _, rfl, hread, hbefore⟩
      · rw [if_neg hclosed] at hread ⊢
        have hforms : forms = [incomplete?, notExpected?, invalidValue?] ++ notListed? ::
            [tooShort?, tooLong?, childInText?, textInElement?] := rfl
        rw [List.findSome?_eq_none_iff, hforms]
        exact List.forall_mem_append.mpr ⟨hbefore, List.forall_mem_cons.mpr ⟨hread, hafter⟩⟩
  | tooShort length limit =>
      refine List.findSome?_eq_some_iff.mpr ⟨[incomplete?, notExpected?, invalidValue?, notListed?],
        tooShort?, _, rfl, tooShort?_complaint hvalue length limit, ?_⟩
      rw [complaint, toList_wrongLength]
      simp only [List.forall_mem_cons]
      exact ⟨rfl, rfl, rfl, rfl, by simp⟩
  | tooLong length limit =>
      refine List.findSome?_eq_some_iff.mpr ⟨[incomplete?, notExpected?, invalidValue?, notListed?,
        tooShort?], tooLong?, _, rfl, tooLong?_complaint hvalue length limit, ?_⟩
      rw [complaint, toList_wrongLength]
      simp only [List.forall_mem_cons]
      exact ⟨rfl, rfl, rfl, rfl, rfl, by simp⟩

/-! ## Telling what was read -/

theorem text_said (element : List Char) (hfits : fault.Fits value) :
    (fault.said element value).text = fault.sentence element value := by
  rw [← String.toList_inj]
  cases fault with
  | invalid isLocal type =>
      have hvalue : value.isEmpty = false := List.isEmpty_eq_false_iff.mpr hfits.1
      cases type <;> simp [said, text, hvalue, elementText, valueText, sentence, opening, quoted]
  | notListed values => simp [said, text, elementText, valueText, sentence, opening, quoted]
  | tooShort length limit => simp [said, text, elementText, valueText, sentence, opening, quoted]
  | tooLong length limit => simp [said, text, elementText, valueText, sentence, opening, quoted]

/-- What stands between the element and the value, and behind the value, comes from the fault alone. -/
theorem exists_toList_sentence (fault : ValueFault) :
    ∃ middle ending : List Char, ∀ element value, (fault.sentence element value).toList =
      "Element '".toList ++ (element ++ '\'' :: ' ' :: (middle ++ (value ++ '\'' :: ending))) := by
  suffices h : ∃ verdict ending : String, ∀ element value,
      fault.sentence element value = opening element verdict value ++ ending by
    obtain ⟨verdict, ending, h⟩ := h
    refine ⟨verdict.toList ++ " '".toList, ending.toList, fun element value => ?_⟩
    rw [h]
    simp [opening, quoted]
  rcases fault with ⟨isLocal, _ | type⟩ | values | ⟨length, limit⟩ | ⟨length, limit⟩
  all_goals
    simp only [sentence, String.append_assoc]
    exact ⟨_, _, fun _ _ => rfl⟩

/-- A sentence tells the element and the value: both are found in it. -/
theorem sentence_inj {element' value' : List Char} (hquote : '\'' ∉ element) (hquote' : '\'' ∉ element')
    (hvalue : '\'' ∉ value) (hvalue' : '\'' ∉ value')
    (h : fault.sentence element value = fault.sentence element' value') :
    element = element' ∧ value = value' := by
  obtain ⟨middle, ending, hsentence⟩ := exists_toList_sentence fault
  have h := congrArg String.toList h
  rw [hsentence, hsentence, List.append_cancel_left_eq] at h
  obtain ⟨helement, hrest⟩ := append_cons_inj hquote hquote' h
  rw [List.cons.injEq, List.append_cancel_left_eq] at hrest
  exact ⟨helement, (append_cons_inj hvalue hvalue' hrest.2).1⟩

/-- A message that is not understood looks like no sentence in plain words. -/
theorem message_ne_sentence {element' value' : List Char} {fault' : ValueFault}
    (hquote : '\'' ∉ element) (hquote' : '\'' ∉ element') :
    fault.message element value ≠ fault'.sentence element' value' := by
  intro h
  obtain ⟨middle, ending, hsentence⟩ := exists_toList_sentence fault'
  have h := congrArg String.toList h
  rw [toList_message, hsentence, List.append_cancel_left_eq] at h
  cases (List.cons.inj (append_cons_inj hquote hquote' h).2).1

theorem getLast?_complaint (value : List Char) (fault : ValueFault) :
    (fault.complaint value).toList.getLast? = some '.' := by
  cases fault <;> unfold complaint <;> try unfold wrongLength
  all_goals
    rw [String.toList_append, List.getLast?_append]
    rfl

theorem trimChars_message (element value : List Char) (fault : ValueFault) :
    trimChars (fault.message element value).toList = (fault.message element value).toList := by
  have hlast : (fault.message element value).toList.getLast? = some '.' := by
    rw [message, String.toList_append, List.getLast?_append, getLast?_complaint]
    rfl
  rw [trimChars_eq_self_iff, trimStart_eq_self_iff, trimEnd_eq_self_iff, hlast, toList_message]
  constructor
  · rintro c hc
    obtain rfl : 'E' = c := by simpa using hc
    decide
  · rintro c ⟨⟩
    decide

end ValueFault

/-- What stands before a message about a line. -/
def lineText (line : Option Int) (said : String) : String :=
  match line with
  | some n => "Line " ++ toString n ++ ": " ++ said
  | none => said

theorem lineText_inj {line : Option Int} {s t : String} : lineText line s = lineText line t ↔ s = t := by
  cases line <;> simp [lineText]

theorem readable_eq_lineText (message : String) (line : Option Int) :
    readable message line = lineText line
      (((read? (withoutNamespaces (trimChars message.toList))).map text).getD
        (String.ofList (withoutNamespaces (trimChars message.toList)))) := by
  cases line <;> rfl

/-- A message about a value tells the element and the value as they are exactly if the name of the element
is found behind its namespace, the value holds no qualified name, and no listed value holds a closing
brace. -/
theorem readable_message_iff {uri name value : List Char} {fault : ValueFault} (line : Option Int)
    (huri : ∀ c ∈ uri, isNamespaceChar c) (hbrace : '{' ∉ name) (hnamequote : '\'' ∉ name)
    (hvalue : '\'' ∉ value) (hfits : fault.Fits value) :
    readable (fault.message (clarkName uri name) value) line =
        lineText line (fault.plain.sentence name value) ↔
      uri ≠ [] ∧ (∃ c ∈ name.head?, isWordChar c) ∧ ¬ HasQualified value ∧ fault.plain.IsClosed := by
  have hclark : '\'' ∉ clarkName uri name := by
    simp only [clarkName, List.mem_cons, List.mem_append, not_or]
    exact ⟨by decide, fun h => absurd (huri _ h) (by decide), by decide, hnamequote⟩
  have helement : withoutNamespaces (clarkName uri name) ≠ [] :=
    withoutNamespaces_eq_nil_iff.not.mpr (List.cons_ne_nil _ _)
  have hquote : '\'' ∉ withoutNamespaces (clarkName uri name) := fun h =>
    hclark ((withoutNamespaces_sublist _).subset h)
  have hplain : '\'' ∉ withoutNamespaces value := fun h =>
    hvalue ((withoutNamespaces_sublist _).subset h)
  have hfits' : fault.plain.Fits (withoutNamespaces value) := hfits.plain
  have hread := fault.plain.read?_message helement hquote hplain hfits'
  rw [readable_eq_lineText, lineText_inj, fault.trimChars_message,
    ValueFault.withoutNamespaces_message, String.ofList_toList, hread]
  by_cases hclosed : fault.plain.IsClosed
  · rw [if_pos hclosed, Option.map_some, Option.getD_some, ValueFault.text_said _ hfits']
    constructor
    · intro h
      obtain ⟨hname, hvalue⟩ := ValueFault.sentence_inj hquote hnamequote hplain hvalue h
      obtain ⟨huri, hinitial⟩ := (withoutNamespaces_clarkName_eq_iff huri hbrace).mp hname
      exact ⟨huri, hinitial, withoutNamespaces_eq_self_iff.mp hvalue, hclosed⟩
    · rintro ⟨hne, hinitial, hqualified, -⟩
      rw [(withoutNamespaces_clarkName_eq_iff huri hbrace).mpr ⟨hne, hinitial⟩,
        withoutNamespaces_eq_self_iff.mpr hqualified]
  · rw [if_neg hclosed]
    constructor
    · intro h
      exact absurd h (ValueFault.message_ne_sentence hquote hnamequote)
    · rintro ⟨-, -, -, hclosed'⟩
      exact absurd hclosed' hclosed

theorem readable_message_of_date :
    readable (ValueFault.message (clarkName "urn:x".toList "IssueDate".toList) "abc".toList
        (.invalid false (some "xs:date".toList))) (some 5) =
      "Line 5: Element 'IssueDate' has invalid value 'abc'; expected a date (YYYY-MM-DD)." := by
  have hfits : (ValueFault.invalid false (some "xs:date".toList)).Fits "abc".toList := by
    refine ⟨by decide, ?_⟩
    rintro name ⟨⟩
    decide
  -- the characters are gone through one by one, not all characters there are
  exact ((readable_message_iff (some 5) (List.all_eq_true.mp (by decide)) (by decide) (by decide)
    (by decide) hfits).mpr
    ⟨by decide, ⟨'I', rfl, by decide +kernel⟩, by decide +kernel, trivial⟩).trans (by decide +kernel)

/-- A value that holds a qualified name is not told as it is. -/
theorem readable_message_differs_of_qualified :
    "urn:x".toList.all isNamespaceChar ∧ '{' ∉ "Note".toList ∧ '\'' ∉ "Note".toList ∧
      '\'' ∉ "\x7ba\x7db".toList ∧
      readable (ValueFault.message (clarkName "urn:x".toList "Note".toList) "\x7ba\x7db".toList
          (.invalid false (some "xs:integer".toList))) none =
        "Element 'Note' has invalid value 'b'; expected an integer." ∧
      (ValueFault.invalid false (some "xs:integer".toList)).plain.sentence "Note".toList
          "\x7ba\x7db".toList =
        "Element 'Note' has invalid value '\x7ba\x7db'; expected an integer." := by
  decide +kernel

end Conformity.SchemaMessage
