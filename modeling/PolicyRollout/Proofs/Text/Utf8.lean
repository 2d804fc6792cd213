import PolicyRollout.Text.Utf8
/-!
Encoding and reading back.  The bytes of a character are read as that character, whatever follows
them, so that a text is read back from its encoding and no two texts have the same.
-/
namespace PolicyRollout.Text

section Bytes

variable {k m n : Nat}

theorem toNat_byte (hk : k < 256) : k.toUInt8.toNat = k :=
  Nat.mod_eq_of_lt hk

theorem not_byte_lt (hk : 0x80 ≤ k) (hbyte : k < 256) : ¬ k.toUInt8 < 0x80 := by
  rw [UInt8.lt_iff_toNat_lt, toNat_byte hbyte]
  exact Nat.not_lt.mpr hk

theorem within_bytes {low high : Nat} (hlow : low ≤ k) (hhigh : k ≤ high) (hbyte : high < 256) :
    (low.toUInt8 ≤ k.toUInt8 && k.toUInt8 ≤ high.toUInt8) = true := by
  rw [Bool.and_eq_true, decide_eq_true_eq, decide_eq_true_eq, UInt8.le_iff_toNat_le,
    UInt8.le_iff_toNat_le, toNat_byte (by omega), toNat_byte (by omega), toNat_byte hbyte]
  exact ⟨hlow, hhigh⟩

theorem toNat_tail (hm : m < 64) : (0x80 + m).toUInt8.toNat - 0x80 = m := by
  rw [toNat_byte (by omega), Nat.add_sub_cancel_left]

theorem isTail_byte (hm : m < 64) : isTail (0x80 + m).toUInt8 = true :=
  within_bytes (Nat.le_add_right 0x80 m) (by omega : 0x80 + m ≤ 0xBF) (by decide)

/-- A tail byte adds its six bits. -/
theorem readTail_byte (value more : Nat) (hm : m < 64) (rest : List UInt8) :
    readTail value (more + 1) ((0x80 + m).toUInt8 :: rest) =
      readTail (value * 64 + m) more rest := by
  rw [readTail, if_pos (isTail_byte hm), toNat_tail hm]

/-- The first bytes, by their numbers. -/
theorem lead?_byte (hk : k < 256) :
    lead? k.toUInt8 =
      if 0xC2 ≤ k ∧ k ≤ 0xDF then some ⟨k - 0xC0, 0x80, 0xBF, 0⟩
      else if k = 0xE0 then some ⟨0, 0xA0, 0xBF, 1⟩
      else if k = 0xED then some ⟨0xD, 0x80, 0x9F, 1⟩
      else if 0xE1 ≤ k ∧ k ≤ 0xEF then some ⟨k - 0xE0, 0x80, 0xBF, 1⟩
      else if k = 0xF0 then some ⟨0, 0x90, 0xBF, 2⟩
      else if 0xF1 ≤ k ∧ k ≤ 0xF3 then some ⟨k - 0xF0, 0x80, 0xBF, 2⟩
      else if k = 0xF4 then some ⟨4, 0x80, 0x8F, 2⟩
      else none := by
  unfold lead?
  simp only [UInt8.le_iff_toNat_le, ← UInt8.toNat_inj, beq_iff_eq, toNat_byte hk,
    Bool.and_eq_true, decide_eq_true_eq]
  rfl

/-- The first byte of an encoding announces `more` bytes after the second one, which holds the
bits of `m`. -/
def Announces (first : UInt8) (value more m : Nat) : Prop :=
  ∃ low high, lead? first = some ⟨value, low, high, more⟩ ∧
    (low ≤ (0x80 + m).toUInt8 && (0x80 + m).toUInt8 ≤ high) = true

/-- The first two bytes give the bits they hold. -/
theorem Announces.readSymbol {value more : Nat} (hk : 0x80 ≤ k) (hbyte : k < 256) (hm : m < 64)
    (hannounces : Announces k.toUInt8 value more m) (rest : List UInt8) :
    readSymbol k.toUInt8 ((0x80 + m).toUInt8 :: rest) = readTail (value * 64 + m) more rest := by
  obtain ⟨low, high, hlead, hrange⟩ := hannounces
  rw [Text.readSymbol, if_neg (not_byte_lt hk hbyte), hlead]
  simp only [hrange, if_true, toNat_tail hm]

theorem announces_two (hlow : 2 ≤ k) (hhigh : k < 32) (hm : m < 64) :
    Announces (0xC0 + k).toUInt8 k 0 m := by
  refine ⟨0x80, 0xBF, ?_, isTail_byte hm⟩
  rw [lead?_byte (by omega), if_pos (by omega), Nat.add_sub_cancel_left]

/-- Three bytes encode what two bytes cannot, and no half of a pair. -/
theorem announces_three (hhigh : k < 16) (hm : m < 64) (hzero : k = 0 → 32 ≤ m)
    (hpair : k = 13 → m < 32) : Announces (0xE0 + k).toUInt8 k 1 m := by
  rw [Announces, lead?_byte (by omega), if_neg (by omega)]
  by_cases hfirst : k = 0
  · subst hfirst
    have hm' := hzero rfl
    refine ⟨0xA0, 0xBF, if_pos rfl, ?_⟩
    exact within_bytes (by omega : 0xA0 ≤ _) (by omega : _ ≤ 0xBF) (by decide)
  · by_cases hthirteen : k = 13
    · subst hthirteen
      have hm' := hpair rfl
      refine ⟨0x80, 0x9F, rfl, ?_⟩
      exact within_bytes (by omega : 0x80 ≤ _) (by omega : _ ≤ 0x9F) (by decide)
    · refine ⟨0x80, 0xBF, ?_, isTail_byte hm⟩
      rw [if_neg (by omega), if_neg (by omega), if_pos (by omega), Nat.add_sub_cancel_left]

/-- Four bytes encode what three bytes cannot, up to the last character. -/
theorem announces_four (hhigh : k < 5) (hm : m < 64) (hzero : k = 0 → 16 ≤ m)
    (hlast : k = 4 → m < 16) : Announces (0xF0 + k).toUInt8 k 2 m := by
  rw [Announces, lead?_byte (by omega), if_neg (by omega), if_neg (by omega), if_neg (by omega),
    if_neg (by omega)]
  by_cases hfirst : k = 0
  · subst hfirst
    have hm' := hzero rfl
    refine ⟨0x90, 0xBF, if_pos rfl, ?_⟩
    exact within_bytes (by omega : 0x90 ≤ _) (by omega : _ ≤ 0xBF) (by decide)
  · by_cases hfour : k = 4
    · subst hfour
      have hm' := hlast rfl
      refine ⟨0x80, 0x8F, rfl, ?_⟩
      exact within_bytes (by omega : 0x80 ≤ _) (by omega : _ ≤ 0x8F) (by decide)
    · refine ⟨0x80, 0xBF, ?_, isTail_byte hm⟩
      rw [if_neg (by omega), if_pos (by omega), Nat.add_sub_cancel_left]

end Bytes

theorem symbols_cons (b : UInt8) (rest : List UInt8) :
    symbols (b :: rest) = (readSymbol b rest).1 :: symbols (readSymbol b rest).2 := by
  rw [symbols]

/-- The bytes of a character are read as it. -/
theorem symbols_encodeChar (c : Char) (rest : List UInt8) :
    symbols (encodeChar c ++ rest) = .char c :: symbols rest := by
  have hscalar : scalar c.toNat = c := Char.ofNat_toNat c
  have hvalid : c.toNat < 0xD800 ∨ 0xDFFF < c.toNat ∧ c.toNat < 0x110000 := c.valid
  unfold encodeChar
  extract_lets n
  have hm : ∀ j : Nat, j % 64 < 64 := fun j => Nat.mod_lt j (by decide)
  split
  · -- one byte
    rename_i hone
    have hlt : n.toUInt8 < 0x80 := by
      rw [UInt8.lt_iff_toNat_lt, toNat_byte (by omega)]
      exact hone
    rw [List.singleton_append, symbols_cons, readSymbol, if_pos hlt, toNat_byte (by omega),
      hscalar]
  · split
    · have hfirst : Announces (0xC0 + n / 64).toUInt8 (n / 64) 0 (n % 64) :=
        announces_two (by omega) (by omega) (hm n)
      have hread := hfirst.readSymbol (by omega) (by omega) (hm n) rest
      have hvalue : n / 64 * 64 + n % 64 = n := by omega
      rw [List.cons_append, symbols_cons, List.cons_append, List.nil_append, hread, hvalue,
        readTail, hscalar]
    · split
      · have hfirst : Announces (0xE0 + n / 4096).toUInt8 (n / 4096) 1 (n / 64 % 64) :=
          announces_three (by omega) (hm (n / 64)) (by omega) (by omega)
        have hread := hfirst.readSymbol (by omega) (by omega) (hm (n / 64))
          ((0x80 + n % 64).toUInt8 :: rest)
        have hvalue : (n / 4096 * 64 + n / 64 % 64) * 64 + n % 64 = n := by omega
        rw [List.cons_append, symbols_cons, List.cons_append, List.cons_append, List.nil_append,
          hread, readTail_byte _ _ (hm n), hvalue, readTail, hscalar]
      · have hfirst : Announces (0xF0 + n / 262144).toUInt8 (n / 262144) 2 (n / 4096 % 64) :=
          announces_four (by omega) (hm (n / 4096)) (by omega) (by omega)
        have hread := hfirst.readSymbol (by omega) (by omega) (hm (n / 4096))
          ((0x80 + n / 64 % 64).toUInt8 :: (0x80 + n % 64).toUInt8 :: rest)
        have hvalue :
            ((n / 262144 * 64 + n / 4096 % 64) * 64 + n / 64 % 64) * 64 + n % 64 = n := by omega
        rw [List.cons_append, symbols_cons, List.cons_append, List.cons_append, List.cons_append,
          List.nil_append, hread, readTail_byte _ _ (hm (n / 64)), readTail_byte _ _ (hm n),
          hvalue, readTail, hscalar]

theorem symbols_flatMap_encodeChar (cs : List Char) (rest : List UInt8) :
    symbols (cs.flatMap encodeChar ++ rest) = cs.map .char ++ symbols rest := by
  induction cs with
  | nil => rfl
  | cons c cs ih =>
      rw [List.flatMap_cons, List.append_assoc, symbols_encodeChar, ih]
      rfl

/-- A text is read back from its encoding. -/
theorem decodeLenient_encode (s : String) : decodeLenient (encode s) = s := by
  have hsymbols : symbols (encode s) = s.toList.map .char := by
    have hread := symbols_flatMap_encodeChar s.toList []
    rw [List.append_nil, symbols, List.append_nil] at hread
    exact hread
  rw [decodeLenient, hsymbols, List.map_map]
  exact (congrArg String.ofList (List.map_id s.toList)).trans String.ofList_toList

end PolicyRollout.Text
