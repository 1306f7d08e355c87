/-!
# Cutting texts

Taking texts apart: what follows a beginning, the parts between occurrences of a character, and the
replacement of all occurrences of a text from left to right.
-/

namespace Conformity.Text

/-- What follows a beginning, if the text has it. -/
def after? : (beginning cs : List Char) → Option (List Char)
  | [], cs => some cs
  | c :: beginning, d :: cs => if c == d then after? beginning cs else none
  | _ :: _, [] => none

/-- What stands before an ending, if the text has it. -/
def before? (ending cs : List Char) : Option (List Char) :=
  (after? ending.reverse cs.reverse).map List.reverse

/-- Does a text begin with another one? -/
def startsWith (beginning cs : List Char) : Bool := (after? beginning cs).isSome

/-- The parts of a text between the occurrences of a character; `part` is the current part so far,
last character first. -/
def splitFrom (c : Char) (part : List Char) : List Char → List (List Char)
  | [] => [part.reverse]
  | d :: cs => if d == c then part.reverse :: splitFrom c [] cs else splitFrom c (d :: part) cs

/-- The parts of a text between the occurrences of a character. -/
def split (c : Char) (cs : List Char) : List (List Char) := splitFrom c [] cs

/-- Replaces a text wherever it occurs, from left to right; the first `skip` characters belong to an
occurrence already replaced. -/
def replaceFrom (old new : List Char) : (skip : Nat) → List Char → List Char
  | _, [] => []
  | skip + 1, _ :: cs => replaceFrom old new skip cs
  | 0, c :: cs =>
    if startsWith old (c :: cs) then new ++ replaceFrom old new (old.length - 1) cs
    else c :: replaceFrom old new 0 cs

/-- Replaces a text, which is not empty, wherever it occurs. -/
def replace (old new cs : List Char) : List Char := replaceFrom old new 0 cs

/-- Does a text contain another one? -/
def hasPart (part : List Char) : List Char → Bool
  | [] => part.isEmpty
  | c :: cs => startsWith part (c :: cs) || hasPart part cs

theorem length_eq_of_after? {beginning cs rest : List Char} (h : after? beginning cs = some rest) :
    cs.length = beginning.length + rest.length := by
  induction beginning generalizing cs with
  | nil => simp_all [after?]
  | cons c beginning ih =>
      cases cs with
      | nil => simp [after?] at h
      | cons d cs =>
          rw [after?] at h
          split at h
          · rw [List.length_cons, List.length_cons, ih h]
            omega
          · cases h

theorem length_le_of_startsWith {beginning cs : List Char} (h : startsWith beginning cs) :
    beginning.length ≤ cs.length := by
  obtain ⟨rest, hrest⟩ := Option.isSome_iff_exists.mp h
  rw [length_eq_of_after? hrest]
  exact Nat.le_add_right _ _

section Replace

variable {old new cs : List Char}

theorem length_replaceFrom_le (h : new.length ≤ old.length) (skip : Nat) (cs : List Char) :
    (replaceFrom old new skip cs).length ≤ cs.length - skip := by
  induction cs generalizing skip with
  | nil => simp [replaceFrom]
  | cons c cs ih =>
      cases skip with
      | succ skip => simpa [replaceFrom] using ih skip
      | zero =>
          rw [replaceFrom]
          split
          · next hstart =>
            have hle := length_le_of_startsWith hstart
            have hrest := ih (old.length - 1)
            rw [List.length_cons] at hle
            rw [List.length_append, List.length_cons]
            omega
          · simpa using ih 0

/-- Replacing a text by a shorter one makes each text shorter that has it. -/
theorem length_replace_lt (h : new.length < old.length) (hpart : hasPart old cs) :
    (replace old new cs).length < cs.length := by
  show (replaceFrom old new 0 cs).length < _
  induction cs with
  | nil =>
      rw [hasPart, List.isEmpty_iff] at hpart
      simp [hpart] at h
  | cons c cs ih =>
      rw [replaceFrom]
      split
      · next hstart =>
        have hle := length_le_of_startsWith hstart
        have hrest := length_replaceFrom_le (Nat.le_of_lt h) (old.length - 1) cs
        rw [List.length_cons] at hle
        rw [List.length_append, List.length_cons]
        omega
      · next hstart =>
        rw [hasPart, Bool.or_eq_true] at hpart
        have := ih (hpart.resolve_left hstart)
        rw [List.length_cons, List.length_cons]
        omega

end Replace

/-- Drops a character at both ends. -/
def stripChar (c : Char) (cs : List Char) : List Char :=
  ((cs.dropWhile (· == c)).reverse.dropWhile (· == c)).reverse

end Conformity.Text
