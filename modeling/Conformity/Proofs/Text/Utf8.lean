import Conformity.Text.Utf8

/-!
# Written UTF-8 is read back

The bytes of a text are read as the text (`Text.decode?_encode`), so texts are told apart by their
bytes. A line break is written by its own byte, and by it alone, so lines that end in that byte are
told apart, too (`Text.flatMap_line_inj`).
-/

namespace Conformity.Text

/-! ## Characters -/

theorem toNat_toUInt8 {n : Nat} (h : n < 256) : n.toUInt8.toNat = n := by
  simp [Nat.mod_eq_of_lt h]

theorem within_iff {low high : Nat} {b : UInt8} :
    within low high b = true ↔ low ≤ b.toNat ∧ b.toNat ≤ high := by
  simp [within]

theorem within_eq_false {low high : Nat} {b : UInt8} (h : b.toNat < low ∨ high < b.toNat) :
    within low high b = false := by
  rw [Bool.eq_false_iff, ne_eq, within_iff]
  omega

/-- A continuation byte holds six bits. -/
theorem tailBits_toUInt8 {n : Nat} (h : n < 64) : tailBits (0x80 + n).toUInt8 = n := by
  have hb : (0x80 + n).toUInt8.toNat = 0x80 + n := toNat_toUInt8 (by omega)
  unfold tailBits
  omega

theorem within_tail {n : Nat} (h : n < 64) : within 0x80 0xBF (0x80 + n).toUInt8 = true := by
  have hb : (0x80 + n).toUInt8.toNat = 0x80 + n := toNat_toUInt8 (by omega)
  rw [within_iff]
  omega

/-- Characters are no halves of pairs, and not too large. -/
theorem toNat_valid (c : Char) : c.toNat < 0xD800 ∨ (0xDFFF < c.toNat ∧ c.toNat < 0x110000) := by
  have h := c.valid
  simpa [UInt32.isValidChar, Nat.isValidChar] using h

theorem toNat_bounds_of_isAlphanum {c : Char} (h : c.isAlphanum = true) :
    0x20 ≤ c.toNat ∧ c.toNat < 0x80 := by
  -- The three ranges, each as the library's test of it unfolds.
  have hranges : (decide (65 ≤ c.toNat ∧ c.toNat ≤ 90) ||
      (decide (97 ≤ c.toNat) && decide (c.toNat ≤ 122)) ||
      (decide (48 ≤ c.toNat) && decide (c.toNat ≤ 57))) = true := h
  simp only [Bool.or_eq_true, Bool.and_eq_true, decide_eq_true_eq] at hranges
  omega

/-- A character is written as the standard library writes it. -/
theorem utf8EncodeChar_eq (c : Char) : String.utf8EncodeChar c = encodeChar c := by
  have hvalid := toNat_valid c
  have hn : c.val.toNat = c.toNat := rfl
  have hbyte : ∀ {m n : Nat}, m = n → UInt8.ofNat m = n.toUInt8 := by
    rintro m n rfl
    rfl
  unfold encodeChar String.utf8EncodeChar
  dsimp only
  rw [hn]
  split
  · next h => rw [if_pos (by omega), hbyte rfl]
  split
  · next h₁ h₂ =>
    rw [if_neg (by omega), if_pos (by omega), hbyte (n := 0xC0 + c.toNat / 64) (by omega),
      hbyte (Nat.add_comm ..)]
  split
  · next h₁ h₂ h₃ =>
    rw [if_neg (by omega), if_neg (by omega), if_pos (by omega),
      hbyte (n := 0xE0 + c.toNat / 4096) (by omega), hbyte (Nat.add_comm ..),
      hbyte (Nat.add_comm ..)]
  · next h₁ h₂ h₃ =>
    rw [if_neg (by omega), if_neg (by omega), if_neg (by omega),
      hbyte (n := 0xF0 + c.toNat / 262144) (by omega), hbyte (Nat.add_comm ..),
      hbyte (Nat.add_comm ..), hbyte (Nat.add_comm ..)]

theorem lead_two {c : Char} (rest : Bytes) (h₁ : 0x80 ≤ c.toNat) (h₂ : c.toNat < 0x800) :
    lead (0xC0 + c.toNat / 64).toUInt8 ((0x80 + c.toNat % 64).toUInt8 :: rest) = .char c 2 := by
  have ha : (0xC0 + c.toNat / 64).toUInt8.toNat = 0xC0 + c.toNat / 64 := toNat_toUInt8 (by omega)
  have hsum : (0xC0 + c.toNat / 64 - 0xC0) * 64 + c.toNat % 64 = c.toNat := by omega
  unfold lead
  dsimp only
  rw [ha, if_neg (by omega), if_pos (within_iff.mpr (by omega)), if_pos (within_tail (by omega)),
    tailBits_toUInt8 (by omega), hsum, Char.ofNat_toNat]

/-- The second byte decides which sequences of three bytes stand for characters. -/
theorem lead3_char {c : Char} {low high : Nat} (rest : Bytes) (h₁ : 0x800 ≤ c.toNat)
    (h₂ : c.toNat < 0x10000) (hlow : low ≤ 0x80 + c.toNat / 64 % 64)
    (hhigh : 0x80 + c.toNat / 64 % 64 ≤ high) :
    lead3 low high (0xE0 + c.toNat / 4096).toUInt8
      ((0x80 + c.toNat / 64 % 64).toUInt8 :: (0x80 + c.toNat % 64).toUInt8 :: rest) = .char c 3 := by
  have ha : (0xE0 + c.toNat / 4096).toUInt8.toNat = 0xE0 + c.toNat / 4096 := toNat_toUInt8 (by omega)
  have hb : (0x80 + c.toNat / 64 % 64).toUInt8.toNat = 0x80 + c.toNat / 64 % 64 :=
    toNat_toUInt8 (by omega)
  have hsum : (0xE0 + c.toNat / 4096 - 0xE0) * 4096 + c.toNat / 64 % 64 * 64 + c.toNat % 64 =
      c.toNat := by omega
  unfold lead3
  dsimp only
  rw [if_pos (within_iff.mpr (by omega)), if_pos (within_tail (by omega)), ha,
    tailBits_toUInt8 (by omega), tailBits_toUInt8 (by omega), hsum, Char.ofNat_toNat]

theorem lead_three {c : Char} (rest : Bytes) (h₁ : 0x800 ≤ c.toNat) (h₂ : c.toNat < 0x10000) :
    lead (0xE0 + c.toNat / 4096).toUInt8
      ((0x80 + c.toNat / 64 % 64).toUInt8 :: (0x80 + c.toNat % 64).toUInt8 :: rest) = .char c 3 := by
  have ha : (0xE0 + c.toNat / 4096).toUInt8.toNat = 0xE0 + c.toNat / 4096 := toNat_toUInt8 (by omega)
  have hvalid := toNat_valid c
  unfold lead
  dsimp only
  rw [ha, if_neg (by omega), within_eq_false (by omega), if_neg Bool.false_ne_true]
  by_cases hE0 : c.toNat / 4096 = 0
  · rw [if_pos (by rw [hE0]; rfl)]
    exact lead3_char rest h₁ h₂ (by omega) (by omega)
  · rw [if_neg (by rw [beq_iff_eq]; omega)]
    by_cases hED : c.toNat / 4096 = 13
    · rw [if_pos (by rw [hED]; rfl)]
      exact lead3_char rest h₁ h₂ (by omega) (by omega)
    · rw [if_neg (by rw [beq_iff_eq]; omega), if_pos (within_iff.mpr (by omega))]
      exact lead3_char rest h₁ h₂ (by omega) (by omega)

/-- The second byte decides which sequences of four bytes stand for characters. -/
theorem lead4_char {c : Char} {low high : Nat} (rest : Bytes) (h₁ : 0x10000 ≤ c.toNat)
    (hlow : low ≤ 0x80 + c.toNat / 4096 % 64) (hhigh : 0x80 + c.toNat / 4096 % 64 ≤ high) :
    lead4 low high (0xF0 + c.toNat / 262144).toUInt8
      ((0x80 + c.toNat / 4096 % 64).toUInt8 :: (0x80 + c.toNat / 64 % 64).toUInt8 ::
        (0x80 + c.toNat % 64).toUInt8 :: rest) = .char c 4 := by
  have hvalid := toNat_valid c
  have ha : (0xF0 + c.toNat / 262144).toUInt8.toNat = 0xF0 + c.toNat / 262144 :=
    toNat_toUInt8 (by omega)
  have hb : (0x80 + c.toNat / 4096 % 64).toUInt8.toNat = 0x80 + c.toNat / 4096 % 64 :=
    toNat_toUInt8 (by omega)
  have hsum : (0xF0 + c.toNat / 262144 - 0xF0) * 262144 + c.toNat / 4096 % 64 * 4096 +
      c.toNat / 64 % 64 * 64 + c.toNat % 64 = c.toNat := by omega
  unfold lead4
  dsimp only
  rw [if_pos (within_iff.mpr (by omega)), if_pos (within_tail (by omega)),
    if_pos (within_tail (by omega)), ha, tailBits_toUInt8 (by omega), tailBits_toUInt8 (by omega),
    tailBits_toUInt8 (by omega), hsum, Char.ofNat_toNat]

theorem lead_four {c : Char} (rest : Bytes) (h₁ : 0x10000 ≤ c.toNat) :
    lead (0xF0 + c.toNat / 262144).toUInt8
      ((0x80 + c.toNat / 4096 % 64).toUInt8 :: (0x80 + c.toNat / 64 % 64).toUInt8 ::
        (0x80 + c.toNat % 64).toUInt8 :: rest) = .char c 4 := by
  have hvalid := toNat_valid c
  have ha : (0xF0 + c.toNat / 262144).toUInt8.toNat = 0xF0 + c.toNat / 262144 :=
    toNat_toUInt8 (by omega)
  unfold lead
  dsimp only
  rw [ha, if_neg (by omega), within_eq_false (by omega), if_neg Bool.false_ne_true,
    if_neg (by rw [beq_iff_eq]; omega), if_neg (by rw [beq_iff_eq]; omega),
    within_eq_false (by omega), if_neg Bool.false_ne_true]
  by_cases hF0 : c.toNat / 262144 = 0
  · rw [if_pos (by rw [hF0]; rfl)]
    exact lead4_char rest h₁ (by omega) (by omega)
  · rw [if_neg (by rw [beq_iff_eq]; omega)]
    by_cases hF4 : c.toNat / 262144 = 4
    · rw [if_pos (by rw [hF4]; rfl)]
      exact lead4_char rest h₁ (by omega) (by omega)
    · rw [if_neg (by rw [beq_iff_eq]; omega), if_pos (within_iff.mpr (by omega))]
      exact lead4_char rest h₁ (by omega) (by omega)

/-- The bytes of a character stand for it, whatever follows. -/
theorem lead_encodeChar (c : Char) (rest : Bytes) :
    ∃ a tail, encodeChar c = a :: tail ∧ lead a (tail ++ rest) = .char c (tail.length + 1) := by
  unfold encodeChar
  dsimp only
  split
  · next h =>
    refine ⟨_, [], rfl, ?_⟩
    unfold lead
    dsimp only
    rw [toNat_toUInt8 (by omega), if_pos h, Char.ofNat_toNat]
    rfl
  split
  · next h₁ h₂ => exact ⟨_, _, rfl, lead_two rest (by omega) h₂⟩
  split
  · next h₁ h₂ h₃ => exact ⟨_, _, rfl, lead_three rest (by omega) h₃⟩
  · next h₁ h₂ h₃ => exact ⟨_, _, rfl, lead_four rest (by omega)⟩

/-! ## Texts -/

theorem bytesOf_eq_encode (s : String) : bytesOf s = encode s.toList := by
  rw [bytesOf, String.toUTF8_eq_toByteArray, ← String.utf8Encode_toList]
  unfold List.utf8Encode encode
  rw [List.data_toByteArray, funext utf8EncodeChar_eq]

/-- The bytes that belong to the character before are skipped. -/
theorem decodeFrom_append (skipped rest : Bytes) :
    decodeFrom skipped.length (skipped ++ rest) = decodeFrom 0 rest := by
  induction skipped with
  | nil => rfl
  | cons b skipped ih => exact ih

/-- A text is read from its bytes. -/
theorem decode?_encode (cs : List Char) : decode? (encode cs) = some cs := by
  unfold decode? encode
  induction cs with
  | nil => rfl
  | cons c cs ih =>
      obtain ⟨a, tail, hbytes, hlead⟩ := lead_encodeChar c (cs.flatMap encodeChar)
      rw [List.flatMap_cons, hbytes, List.cons_append, decodeFrom, hlead]
      dsimp only
      rw [Nat.add_sub_cancel, decodeFrom_append, ih, Option.map_some]

theorem encode_injective {cs ds : List Char} (h : encode cs = encode ds) : cs = ds := by
  have hread := congrArg decode? h
  rw [decode?_encode, decode?_encode] at hread
  exact Option.some.inj hread

theorem bytesOf_injective {s t : String} (h : bytesOf s = bytesOf t) : s = t := by
  rw [bytesOf_eq_encode, bytesOf_eq_encode] at h
  exact String.toList_inj.mp (encode_injective h)

/-! ## ASCII -/

theorem encodeChar_of_lt {c : Char} (h : c.toNat < 0x80) : encodeChar c = [c.toNat.toUInt8] := by
  simp [encodeChar, h]

/-- Only an ASCII character is written with its byte. -/
theorem toNat_eq_of_mem_encodeChar {c : Char} {b : UInt8} (hb : b.toNat < 0x80)
    (h : b ∈ encodeChar c) : b.toNat = c.toNat := by
  have hvalid := toNat_valid c
  have hbyte : ∀ {n : Nat}, n < 256 → b = n.toUInt8 → b.toNat = n := by
    rintro n hn rfl
    exact toNat_toUInt8 hn
  unfold encodeChar at h
  dsimp only at h
  split at h
  · next hn => exact hbyte (by omega) (List.mem_singleton.mp h)
  split at h
  · simp only [List.mem_cons, List.not_mem_nil, or_false] at h
    rcases h with h | h <;> have := hbyte (by omega) h <;> omega
  split at h
  · simp only [List.mem_cons, List.not_mem_nil, or_false] at h
    rcases h with h | h | h <;> have := hbyte (by omega) h <;> omega
  · simp only [List.mem_cons, List.not_mem_nil, or_false] at h
    rcases h with h | h | h | h <;> have := hbyte (by omega) h <;> omega

/-- The byte of an ASCII character is in a text's bytes only for that character. -/
theorem mem_of_mem_encode {c : Char} {cs : List Char} (hc : c.toNat < 0x80)
    (h : c.toNat.toUInt8 ∈ encode cs) : c ∈ cs := by
  have hbyte : c.toNat.toUInt8.toNat = c.toNat := toNat_toUInt8 (by omega)
  obtain ⟨d, hd, hmem⟩ := List.mem_flatMap.mp h
  have hcd := toNat_eq_of_mem_encodeChar (by omega) hmem
  rw [hbyte] at hcd
  rwa [Char.toNat_inj.mp hcd]

/-- The bytes of an ASCII text are the codes of its characters. -/
theorem map_toNat_encode {cs : List Char} (h : ∀ c ∈ cs, c.toNat < 0x80) :
    (encode cs).map UInt8.toNat = cs.map Char.toNat := by
  induction cs with
  | nil => rfl
  | cons c cs ih =>
      obtain ⟨hc, hcs⟩ := List.forall_mem_cons.mp h
      rw [encode, List.flatMap_cons, encodeChar_of_lt hc, List.map_append, ← encode, ih hcs,
        List.map_singleton, toNat_toUInt8 (by omega), List.singleton_append, List.map_cons]

theorem encode_append (cs ds : List Char) : encode (cs ++ ds) = encode cs ++ encode ds :=
  List.flatMap_append

/-! ## Lines -/

theorem newline_not_mem_bytesOf {s : String} (h : '\n' ∉ s.toList) : (0x0A : UInt8) ∉ bytesOf s := by
  intro hmem
  rw [bytesOf_eq_encode] at hmem
  exact h (mem_of_mem_encode (c := '\n') (by decide) hmem)

/-- What ends at the first of some value is told apart from what follows. -/
theorem append_cons_inj {α : Type} {x : α} {a b r s : List α} (ha : x ∉ a) (hb : x ∉ b)
    (h : a ++ x :: r = b ++ x :: s) : a = b ∧ r = s := by
  rcases List.append_eq_append_iff.mp h with ⟨c, rfl, hc⟩ | ⟨c, rfl, hc⟩
  · cases c with
    | nil => simpa using hc
    | cons y c =>
        obtain rfl : x = y := (List.cons.inj hc).1
        exact absurd (by simp) hb
  · cases c with
    | nil => simpa using hc.symm
    | cons y c =>
        obtain rfl : x = y := (List.cons.inj hc).1
        exact absurd (by simp) ha

/-- Lists of lines are told apart by the bytes of the lines, each ended by a line break. -/
theorem flatMap_line_inj {xs ys : List String} (hx : ∀ s ∈ xs, '\n' ∉ s.toList)
    (hy : ∀ s ∈ ys, '\n' ∉ s.toList)
    (h : xs.flatMap (fun s => bytesOf s ++ [0x0A]) = ys.flatMap (fun s => bytesOf s ++ [0x0A])) :
    xs = ys := by
  induction xs generalizing ys with
  | nil =>
      cases ys with
      | nil => rfl
      | cons t ys => simp at h
  | cons s xs ih =>
      cases ys with
      | nil => simp at h
      | cons t ys =>
          rw [List.flatMap_cons, List.flatMap_cons, List.append_assoc, List.append_assoc] at h
          obtain ⟨hline, hrest⟩ := append_cons_inj
            (newline_not_mem_bytesOf (hx s List.mem_cons_self))
            (newline_not_mem_bytesOf (hy t List.mem_cons_self)) h
          rw [bytesOf_injective hline, ih (fun u hu => hx u (List.mem_cons_of_mem _ hu))
            (fun u hu => hy u (List.mem_cons_of_mem _ hu)) hrest]

end Conformity.Text
