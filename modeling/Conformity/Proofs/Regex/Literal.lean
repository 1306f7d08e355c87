import Conformity.Regex.Match
import Conformity.Regex.Parser

/-!
# Patterns of exact texts

The pattern of an exact text is read as the characters of the text, one after another, whichever of
them have a meaning of their own (`Regex.parse_literalPattern`). So it matches this text and no other
one (`Regex.matchesAll_literal`). A text without characters of that sort is its own pattern
(`Regex.parse_of_inactive`).
-/

namespace Conformity.Regex

/-- The expression of an exact text. -/
def literal (cs : List Char) : Expr := .seq (cs.map fun c => .char .exact c.toNat)

/-! ## Tokens -/

/-- The characters that are escaped. -/
theorem specialChars_eq : specialChars = ['(', ')', '[', ']', Char.ofNat 123, Char.ofNat 125, '?',
    '*', '+', '-', '|', '^', '$', '\\', '.', '&', '~', '#', ' ', '\t', '\n', '\r', Char.ofNat 11,
    Char.ofNat 12] := rfl

/-- The characters with a meaning of their own wherever they stand in a pattern. -/
def activeChars : List Char :=
  ['|', ')', '[', '?', '*', '+', Char.ofNat 123, '.', '(', '^', '$', '\\']

/-- Tokens that stand for the characters of a text, behind a backslash where that is needed. -/
inductive Spells : List Token → List Char → Prop
  | nil : Spells [] []
  | escaped {p : Nat} {c : Char} {ts : List Token} {cs : List Char} : c ∈ specialChars →
      Spells ts cs → Spells (.escaped p c :: ts) (c :: cs)
  | plain {p : Nat} {c : Char} {ts : List Token} {cs : List Char} : c ∉ activeChars →
      Spells ts cs → Spells (.plain p c :: ts) (c :: cs)

theorem Spells.length_eq {ts : List Token} {cs : List Char} (h : Spells ts cs) :
    ts.length = cs.length := by
  induction h with
  | nil => rfl
  | escaped _ _ ih | plain _ _ ih => rw [List.length_cons, List.length_cons, ih]

/-- No backslash dangles among them. -/
theorem Spells.ready_eq {ts : List Token} {cs : List Char} (h : Spells ts cs) :
    ready ts = .ok ts := by
  cases h <;> rfl

theorem scan_plain {c : Char} (h : c ≠ '\\') (p : Nat) (cs : List Char) :
    Token.scan p (c :: cs) = .plain p c :: Token.scan (p + 1) cs := by
  rw [Token.scan]
  · rintro rfl
    exact absurd rfl h
  · rintro d ds rfl
    exact absurd rfl h

theorem scan_of_not_active {c : Char} (h : c ∉ activeChars) (p : Nat) (cs : List Char) :
    Token.scan p (c :: cs) = .plain p c :: Token.scan (p + 1) cs := by
  refine scan_plain ?_ p cs
  rintro rfl
  exact h (by decide)

theorem specialChars_of_activeChars {c : Char} (h : c ∈ activeChars) : c ∈ specialChars := by
  unfold activeChars at h
  rw [specialChars_eq]
  simp only [List.mem_cons, List.not_mem_nil, or_false] at h
  rcases h with rfl | rfl | rfl | rfl | rfl | rfl | rfl | rfl | rfl | rfl | rfl | rfl <;> simp

theorem spells_scan_literalPattern (p : Nat) (cs : List Char) :
    Spells (Token.scan p (literalPattern cs)) cs := by
  induction cs generalizing p with
  | nil => exact .nil
  | cons c cs ih =>
      have hcons : literalPattern (c :: cs) =
          (if specialChars.contains c then ['\\', c] else [c]) ++ literalPattern cs := rfl
      rw [hcons]
      split
      · next hc => exact .escaped (List.contains_iff_mem.mp hc) (ih (p + 2))
      · next hc =>
        have hactive : c ∉ activeChars := fun h =>
          hc (List.contains_iff_mem.mpr (specialChars_of_activeChars h))
        rw [List.singleton_append, scan_of_not_active hactive]
        exact .plain hactive (ih (p + 1))

theorem spells_scan_of_inactive {cs : List Char} (h : ∀ c ∈ cs, c ∉ activeChars) (p : Nat) :
    Spells (Token.scan p cs) cs := by
  induction cs generalizing p with
  | nil => exact .nil
  | cons c cs ih =>
      rw [List.forall_mem_cons] at h
      rw [scan_of_not_active h.1]
      exact .plain h.1 (ih h.2 (p + 1))

/-! ## Items -/

/-- Behind a backslash they stand for themselves. -/
theorem readEscape_special {c : Char} (h : c ∈ specialChars) (total start : Nat) (rest : Rest) :
    readEscape total start c rest = .ok (.code c.toNat, rest) := by
  rw [specialChars_eq] at h
  simp only [List.mem_cons, List.not_mem_nil, or_false] at h
  rcases h with rfl | rfl | rfl | rfl | rfl | rfl | rfl | rfl | rfl | rfl | rfl | rfl | rfl | rfl |
    rfl | rfl | rfl | rfl | rfl | rfl | rfl | rfl | rfl | rfl <;> rfl

namespace Reader

variable {r : Reader} {c : Char} {cs : List Char} {p total : Nat} {ts : List Token}

theorem escape_special (hoptions : r.top.options = {}) (h : c ∈ specialChars) :
    r.escape total p c ts = .ok (r.push (.char .exact c.toNat), ts) := by
  unfold escape
  rw [readEscape_special h, hoptions]
  rfl

/-- A character without a meaning of its own stands for itself as it is. -/
theorem plain_of_not_active (hoptions : r.top.options = {}) (h : c ∉ activeChars)
    (hready : ready ts = .ok ts) :
    r.plain total p c ts = .ok (r.push (.char .exact c.toNat), ts) := by
  unfold activeChars at h
  simp only [List.mem_cons, List.not_mem_nil, or_false, not_or] at h
  unfold plain
  rw [hready, hoptions]
  simp only [h, beq_iff_eq, ↓reduceIte, Bool.false_and, Bool.false_eq_true, Options.caseRule,
    Bool.not_false, bind_pure_comp]
  rfl

/-- The reader with more items in the branch that it reads. -/
def pushAll (r : Reader) (es : List Expr) : Reader := es.foldl push r

/-- Each token is read as its character. -/
theorem run_of_spells (hoptions : r.top.options = {}) (h : Spells ts cs) {fuel : Nat}
    (hfuel : ts.length ≤ fuel) :
    run total fuel r ts = .ok (r.pushAll (cs.map fun c => .char .exact c.toNat)) := by
  induction h generalizing r fuel with
  | nil => cases fuel <;> rfl
  | @escaped p c ts cs hspecial hrest ih =>
      cases fuel with
      | zero => cases hfuel
      | succ fuel =>
          have hitem : r.item total (.escaped p c) ts = .ok (r.push (.char .exact c.toNat), ts) := by
            show (ready ts >>= fun rest => r.escape total p c rest) = _
            rw [hrest.ready_eq]
            exact escape_special hoptions hspecial
          rw [run, hitem]
          exact ih (r := r.push (.char .exact c.toNat)) hoptions (Nat.le_of_succ_le_succ hfuel)
  | @plain p c ts cs hactive hrest ih =>
      cases fuel with
      | zero => cases hfuel
      | succ fuel =>
          have hitem : r.item total (.plain p c) ts = .ok (r.push (.char .exact c.toNat), ts) :=
            plain_of_not_active hoptions hactive hrest.ready_eq
          rw [run, hitem]
          exact ih (r := r.push (.char .exact c.toNat)) hoptions (Nat.le_of_succ_le_succ hfuel)

theorem pushAll_eq (r : Reader) (es : List Expr) :
    r.pushAll es = { r with top := { r.top with items := es.reverse ++ r.top.items } } := by
  unfold pushAll
  induction es generalizing r with
  | nil => rfl
  | cons e es ih =>
      rw [List.foldl_cons, ih]
      simp [push]

end Reader

/-! ## The expression -/

theorem lateFaultIn?_literal (template : Bool) (cs : List Char) :
    Expr.lateFaultIn? template (cs.map fun c => .char .exact c.toNat) = none := by
  induction cs with
  | nil => rfl
  | cons c cs ih =>
      show ((Expr.char .exact c.toNat).lateFault? template).or _ = none
      rw [ih]
      rfl

/-- A pattern that spells a text is read as its characters. -/
theorem parse_of_spells {pattern cs : List Char} (h : Spells (Token.scan 0 pattern) cs) :
    parse pattern = .ok (literal cs) := by
  unfold parse
  rw [h.ready_eq]
  simp only [bind, Except.bind]
  rw [Reader.run_of_spells rfl h (Nat.le_refl _), Reader.pushAll_eq]
  simp only [List.append_nil, Reader.finish, Reader.body, Reader.branch, List.reverse_reverse,
    List.find?_nil, Expr.lateFault?, lateFaultIn?_literal]
  rfl

/-- The pattern of an exact text is read as its characters. -/
theorem parse_literalPattern (cs : List Char) : parse (literalPattern cs) = .ok (literal cs) :=
  parse_of_spells (spells_scan_literalPattern 0 cs)

/-- So is a text in which no character has a meaning of its own. -/
theorem parse_of_inactive {cs : List Char} (h : ∀ c ∈ cs, c ∉ activeChars) :
    parse cs = .ok (literal cs) :=
  parse_of_spells (spells_scan_of_inactive h 0)

/-- An exact text is matched by itself only. -/
theorem isSome_runSeq_literal (cs : List Char) (st : State) :
    (Expr.runSeq (cs.map fun c => .char .exact c.toNat) st
      fun st => if st.after.isEmpty then some () else none).isSome ↔ st.after = cs := by
  induction cs generalizing st with
  | nil => cases h : st.after <;> simp [Expr.runSeq, h]
  | cons c cs ih =>
      rw [List.map_cons, Expr.runSeq, Expr.run]
      cases h : st.after with
      | nil => simp
      | cons d ds =>
          have htakes : (CaseRule.exact.mates d).contains c.toNat = true ↔ d = c := by
            simp [CaseRule.mates, Char.toNat_inj, eq_comm]
          dsimp only
          split
          · next hd =>
            rw [ih, htakes.mp hd]
            exact (List.cons_inj_right c).symm
          · next hd =>
            refine iff_of_false (by simp) fun heq => hd (htakes.mpr ?_)
            exact (List.cons_eq_cons.mp heq).1

theorem matchesAll_literal (cs text : List Char) : (literal cs).matchesAll text ↔ text = cs :=
  isSome_runSeq_literal cs (State.start text)

end Conformity.Regex
