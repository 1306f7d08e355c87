import Conformity.Data.Json

/-!
# Texts in JSON

A text that is written between quotes is read back, whatever follows it (`Json.readText_quoted`),
and it is written on one line.
-/

namespace Conformity.Json

open Text (hexDigit hexDigits)

/-! ## Hexadecimal digits -/

theorem hexValue?_hexDigit {d : Nat} (h : d < 16) : hexValue? (hexDigit d) = some d := by
  have all : ∀ d : Fin 16, hexValue? (hexDigit d.val) = some d.val := by decide
  exact all ⟨d, h⟩

theorem hex4?_hexDigits {n : Nat} (h : n < 0x10000) (rest : List Char) :
    hex4? (hexDigits 4 n ++ rest) = some (n, rest) := by
  have hsum : ((n / 16 / 16 / 16 % 16 * 16 + n / 16 / 16 % 16) * 16 + n / 16 % 16) * 16 + n % 16 = n := by
    omega
  have hdigits : hexDigits 4 n = [hexDigit (n / 16 / 16 / 16 % 16), hexDigit (n / 16 / 16 % 16),
      hexDigit (n / 16 % 16), hexDigit (n % 16)] := rfl
  rw [hdigits]
  simp only [List.cons_append, List.nil_append, hex4?, hexValue?_hexDigit (Nat.mod_lt _ (by omega)),
    Option.bind_eq_bind, Option.bind_some, hsum]
  rfl

/-! ## Reading what was written -/

/-- The code of a control character is no half of a pair. -/
theorem readText_control {n : Nat} (h : n < 0x20) (fuel : Nat) (read rest : List Char) :
    readText (fuel + 1) read ('\\' :: 'u' :: (hexDigits 4 n ++ rest)) =
      readText fuel (Char.ofNat n :: read) rest := by
  have hchar : charOf n = Char.ofNat n := if_pos (Or.inl (by omega))
  have hhalf : ∀ low, joinHalves n low = none := by
    intro low
    unfold joinHalves
    rw [if_neg]
    simp only [Bool.and_eq_true, decide_eq_true_eq]
    omega
  simp only [readText, hex4?_hexDigits (show n < 0x10000 by omega), Option.bind_eq_bind,
    Option.bind_some, hchar]
  split
  · next rest' =>
    cases hex4? rest' with
    | none => rfl
    | some p => rw [Option.bind_some, hhalf]; rfl
  · rfl

/-- A character is read from what it is written as. -/
theorem readText_escapeChar (c : Char) (fuel : Nat) (read rest : List Char) :
    readText (fuel + 1) read (escapeChar c ++ rest) = readText fuel (c :: read) rest := by
  unfold escapeChar
  split
  · next h => rw [beq_iff_eq.mp h]; rfl
  split
  · next h => rw [beq_iff_eq.mp h]; rfl
  split
  · next h => rw [beq_iff_eq.mp h]; rfl
  split
  · next h => rw [beq_iff_eq.mp h]; rfl
  split
  · next h => rw [beq_iff_eq.mp h]; rfl
  split
  · next h => rw [← Char.ofNat_toNat c, beq_iff_eq.mp h]; rfl
  split
  · next h => rw [← Char.ofNat_toNat c, beq_iff_eq.mp h]; rfl
  split
  · next h =>
    rw [List.cons_append, List.cons_append, readText_control h, Char.ofNat_toNat]
  · next hquote hslash _ _ _ _ _ hcontrol =>
    rw [beq_iff_eq] at hquote hslash
    simp only [List.cons_append, List.nil_append]
    rw [readText]
    · exact if_neg hcontrol
    · exact hquote
    · exact fun _ h => absurd h hslash
    · exact fun _ _ h => absurd h hslash

theorem readText_flatMap (cs : List Char) (fuel : Nat) (read rest : List Char) :
    readText (fuel + cs.length + 1) read (cs.flatMap escapeChar ++ '"' :: rest) =
      some (read.reverse ++ cs, rest) := by
  induction cs generalizing read with
  | nil => simp [readText]
  | cons c cs ih =>
      rw [List.flatMap_cons, List.append_assoc, List.length_cons, ← Nat.add_assoc,
        readText_escapeChar, ih, List.reverse_cons, List.append_assoc]
      rfl

/-- A written text is read back behind its opening quote, up to its closing quote. -/
theorem readText_quoted (s : String) (fuel : Nat) (rest : List Char) :
    readText (fuel + s.toList.length + 1) [] ((quoted s).toList.drop 1 ++ rest) =
      some (s.toList, rest) := by
  have hdrop : (quoted s).toList.drop 1 ++ rest = s.toList.flatMap escapeChar ++ '"' :: rest := by
    simp [quoted]
  rw [hdrop, readText_flatMap]
  rfl

/-- Written texts are told apart, whatever follows them. -/
theorem quoted_append_inj {s t : String} {rest rest' : List Char}
    (h : (quoted s).toList ++ rest = (quoted t).toList ++ rest') : s = t ∧ rest = rest' := by
  have hs := readText_quoted s t.toList.length rest
  have ht := readText_quoted t s.toList.length rest'
  have hopen : ∀ u : String, (quoted u).toList = '"' :: (quoted u).toList.drop 1 := by
    intro u
    simp [quoted]
  rw [hopen s, hopen t, List.cons_append, List.cons_append] at h
  rw [(List.cons.inj h).2, Nat.add_comm t.toList.length, ht] at hs
  obtain ⟨hlist, hrest⟩ := Prod.mk.inj (Option.some.inj hs)
  exact ⟨String.toList_inj.mp hlist.symm, hrest.symm⟩

/-! ## One line -/

theorem newline_not_mem_hexDigits (width n : Nat) : '\n' ∉ hexDigits width n := by
  have all : ∀ d : Fin 16, hexDigit d.val ≠ '\n' := by decide
  induction width generalizing n with
  | zero => simp [hexDigits]
  | succ width ih =>
      rw [hexDigits, List.mem_append, List.mem_singleton]
      rintro (h | h)
      · exact ih _ h
      · exact all ⟨n % 16, Nat.mod_lt _ (by omega)⟩ h.symm

theorem newline_not_mem_escapeChar (c : Char) : '\n' ∉ escapeChar c := by
  unfold escapeChar
  split
  · decide
  split
  · decide
  split
  · decide
  split
  · decide
  split
  · decide
  split
  · decide
  split
  · decide
  split
  · simp [newline_not_mem_hexDigits]
  · next hline _ _ _ _ _ =>
    rw [beq_iff_eq] at hline
    simpa using Ne.symm hline

/-- A written text has no line breaks. -/
theorem newline_not_mem_quoted (s : String) : '\n' ∉ (quoted s).toList := by
  simp only [quoted, String.toList_ofList, List.mem_append, List.mem_cons, List.mem_flatMap]
  rintro ((h | ⟨c, -, h⟩) | h)
  · exact absurd h (by decide)
  · exact newline_not_mem_escapeChar c h
  · simp at h

end Conformity.Json
