import Conformity.Assertion
import Conformity.Proofs.Data.Json
import Conformity.Proofs.Text.Order
import Conformity.Proofs.Text.Utf8

/-!
# What a fingerprint tells

The bytes of which the fingerprint of assertions is the digest tell which assertions they are: each
is written on a line of its own from which it can be read back, and the lines come in order, each
once.
-/

namespace Conformity.Assertion

/-! ## Lines -/

/-- A part of an assertion as it stands in the line of the assertion. -/
def part (s : Option String) : List Char := (Json.compact (Data.ofText? s)).toList

theorem part_none : part none = ['n', 'u', 'l', 'l'] := by decide

theorem part_some (s : String) : part (some s) = (Json.quoted s).toList := rfl

theorem canonical_toList (a : Assertion) : a.canonical.toList =
    '[' :: (part a.context ++ ',' :: (part a.test ++ ',' :: (part a.message ++ ',' ::
      (part a.id ++ [']'])))) := by
  simp [canonical, Json.compact, Json.compactItems, Data.ofList, part]

/-- Parts are told apart, whatever follows them. -/
theorem part_append_inj {x y : Option String} {rest rest' : List Char}
    (h : part x ++ rest = part y ++ rest') : x = y ∧ rest = rest' := by
  have hquote : ∀ s : String, (Json.quoted s).toList = '"' :: (Json.quoted s).toList.drop 1 := by
    intro s
    simp [Json.quoted]
  cases x with
  | none =>
      cases y with
      | none => exact ⟨rfl, List.append_cancel_left h⟩
      | some t =>
          rw [part_none, part_some, hquote t] at h
          exact absurd (List.cons.inj h).1 (by decide)
  | some s =>
      cases y with
      | none =>
          rw [part_none, part_some, hquote s] at h
          exact absurd (List.cons.inj h).1 (by decide)
      | some t =>
          obtain ⟨rfl, hrest⟩ := Json.quoted_append_inj h
          exact ⟨rfl, hrest⟩

/-- Different assertions have different lines. -/
theorem canonical_injective {a b : Assertion} (h : a.canonical = b.canonical) : a = b := by
  have hlist := congrArg String.toList h
  rw [canonical_toList, canonical_toList] at hlist
  obtain ⟨hcontext, hlist⟩ := part_append_inj (List.cons.inj hlist).2
  obtain ⟨htest, hlist⟩ := part_append_inj (List.cons.inj hlist).2
  obtain ⟨hmessage, hlist⟩ := part_append_inj (List.cons.inj hlist).2
  obtain ⟨hid, -⟩ := part_append_inj (List.cons.inj hlist).2
  obtain ⟨context, test, message, id⟩ := a
  obtain ⟨context', test', message', id'⟩ := b
  obtain rfl : context = context' := hcontext
  obtain rfl : test = test' := htest
  obtain rfl : message = message' := hmessage
  obtain rfl : id = id' := hid
  rfl

theorem newline_not_mem_part (s : Option String) : '\n' ∉ part s := by
  cases s with
  | none => decide
  | some s => exact Json.newline_not_mem_quoted s

theorem newline_not_mem_canonical (a : Assertion) : '\n' ∉ a.canonical.toList := by
  rw [canonical_toList]
  simp [newline_not_mem_part]

/-! ## The bytes of a fingerprint -/

/-- The bytes of which the fingerprint is the digest. -/
def fingerprintInput (as : List Assertion) : Bytes :=
  (canonicalLines as).flatMap fun line => bytesOf line ++ [0x0A]

theorem mem_canonicalLines {as : List Assertion} {line : String} :
    line ∈ canonicalLines as ↔ ∃ a ∈ as, a.canonical = line := by
  rw [canonicalLines, Text.mem_sortedSet, List.mem_map]

/-- The same assertions have the same bytes, in whatever order and however often they are there. -/
theorem fingerprintInput_eq_of_mem_iff {as bs : List Assertion} (h : ∀ a, a ∈ as ↔ a ∈ bs) :
    fingerprintInput as = fingerprintInput bs := by
  have hlines : canonicalLines as = canonicalLines bs := by
    refine Text.sortedSet_eq_sortedSet_iff.mpr fun line => ?_
    simp [List.mem_map, h]
  rw [fingerprintInput, hlines, fingerprintInput]

/-- Assertions in another order have the same bytes. -/
theorem fingerprintInput_eq_of_perm {as bs : List Assertion} (h : as.Perm bs) :
    fingerprintInput as = fingerprintInput bs := fingerprintInput_eq_of_mem_iff fun _ => h.mem_iff

/-- Assertions with the same bytes are the same but for order and repetition. -/
theorem mem_iff_of_fingerprintInput_eq {as bs : List Assertion}
    (h : fingerprintInput as = fingerprintInput bs) (a : Assertion) : a ∈ as ↔ a ∈ bs := by
  have hline : ∀ {cs : List Assertion} (line : String), line ∈ canonicalLines cs →
      '\n' ∉ line.toList := by
    intro cs line hmem
    obtain ⟨c, -, rfl⟩ := mem_canonicalLines.mp hmem
    exact newline_not_mem_canonical c
  -- no line holds a line break, so the bytes tell where each line ends
  have hlines : canonicalLines as = canonicalLines bs := Text.flatMap_line_inj hline hline h
  have hmem : ∀ cs : List Assertion, a.canonical ∈ canonicalLines cs ↔ a ∈ cs := by
    intro cs
    rw [mem_canonicalLines]
    constructor
    · rintro ⟨c, hc, heq⟩
      rwa [← canonical_injective heq]
    · exact fun ha => ⟨a, ha, rfl⟩
  rw [← hmem as, hlines, hmem bs]

/-- A fingerprint is the digest of bytes that two lists share exactly if they hold the same
assertions, in whatever order and however often. -/
theorem fingerprint_of_set (as bs : List Assertion) :
    fingerprint as = Digest.sha256 (fingerprintInput as) ∧
      fingerprint bs = Digest.sha256 (fingerprintInput bs) ∧
      (fingerprintInput as = fingerprintInput bs ↔ ∀ a, a ∈ as ↔ a ∈ bs) :=
  ⟨rfl, rfl, mem_iff_of_fingerprintInput_eq, fingerprintInput_eq_of_mem_iff⟩

end Conformity.Assertion
