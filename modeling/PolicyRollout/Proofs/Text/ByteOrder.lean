import PolicyRollout.Text.Utf8
/-!
The order of texts.  Texts are ordered by their characters, and their encodings by
their bytes.  UTF-8 makes no difference between the two: an encoding begins with its
high bits, and the first byte of a longer encoding is the greater.
-/
namespace PolicyRollout.Text

section Bytes

variable {m n lead : Nat} {rest rest' : List UInt8}

theorem byte_lt (hlt : m < n) (hbyte : n < 256) : m.toUInt8 :: rest < n.toUInt8 :: rest' := by
  apply List.Lex.rel
  rw [UInt8.lt_iff_toNat_lt]
  change m % 256 < n % 256
  omega

theorem append_lt (common : List UInt8) (hlt : rest < rest') :
    common ++ rest < common ++ rest' := by
  induction common with
  | nil => exact hlt
  | cons first more ih => exact .cons ih

/-- The bytes of the higher bits decide, and after them the next byte. -/
theorem tail_lt (high high' : List UInt8) (hlt : m < n) (hsame : m / 64 = n / 64 → high = high')
    (hhigh : m / 64 < n / 64 → ∀ rest rest', high ++ rest < high' ++ rest') :
    high ++ (0x80 + m % 64).toUInt8 :: rest < high' ++ (0x80 + n % 64).toUInt8 :: rest' := by
  by_cases hdiv : m / 64 = n / 64
  · rw [hsame hdiv]
    apply append_lt
    apply byte_lt <;> omega
  · apply hhigh
    omega

theorem two_bytes_lt (hlt : m < n) (hbyte : lead + n / 64 < 256) :
    [(lead + m / 64).toUInt8, (0x80 + m % 64).toUInt8] ++ rest <
      [(lead + n / 64).toUInt8, (0x80 + n % 64).toUInt8] ++ rest' := by
  apply tail_lt [(lead + m / 64).toUInt8] [(lead + n / 64).toUInt8] hlt
  · intro hdiv
    rw [hdiv]
  · intro hdiv rest rest'
    apply byte_lt <;> omega

theorem three_bytes_lt (hlt : m < n) (hbyte : lead + n / 64 / 64 < 256) :
    [(lead + m / 64 / 64).toUInt8, (0x80 + m / 64 % 64).toUInt8, (0x80 + m % 64).toUInt8] ++ rest <
      [(lead + n / 64 / 64).toUInt8, (0x80 + n / 64 % 64).toUInt8, (0x80 + n % 64).toUInt8] ++
        rest' := by
  apply tail_lt [_, _] [_, _] hlt
  · intro hdiv
    rw [hdiv]
  · intro hdiv rest rest'
    exact two_bytes_lt hdiv hbyte

theorem four_bytes_lt (hlt : m < n) (hbyte : lead + n / 64 / 64 / 64 < 256) :
    [(lead + m / 64 / 64 / 64).toUInt8, (0x80 + m / 64 / 64 % 64).toUInt8,
        (0x80 + m / 64 % 64).toUInt8, (0x80 + m % 64).toUInt8] ++ rest <
      [(lead + n / 64 / 64 / 64).toUInt8, (0x80 + n / 64 / 64 % 64).toUInt8,
        (0x80 + n / 64 % 64).toUInt8, (0x80 + n % 64).toUInt8] ++ rest' := by
  apply tail_lt [_, _, _] [_, _, _] hlt
  · intro hdiv
    rw [hdiv]
  · intro hdiv rest rest'
    exact three_bytes_lt hdiv hbyte

end Bytes

theorem char_toNat_lt (c : Char) : c.toNat < 0x110000 := by
  rcases c.valid with hlow | hhigh
  · exact Nat.lt_trans hlow (by decide)
  · exact hhigh.2

/-- The encoding of a greater character is greater, whatever follows. -/
theorem encodeChar_lt {c d : Char} (hlt : c < d) (rest rest' : List UInt8) :
    encodeChar c ++ rest < encodeChar d ++ rest' := by
  have hbound := char_toNat_lt d
  have hnat : c.toNat < d.toNat := hlt
  unfold encodeChar
  generalize c.toNat = m at hnat
  generalize d.toNat = n at hnat hbound
  have hthree : ∀ k : Nat, k / 4096 = k / 64 / 64 := fun k => by omega
  have hfour : ∀ k : Nat, k / 262144 = k / 64 / 64 / 64 := fun k => by omega
  simp only [hthree, hfour]
  by_cases hone : m < 0x80
  · rw [if_pos hone]
    repeat' split
    all_goals apply byte_lt <;> omega
  · rw [if_neg hone, if_neg (show ¬ n < 0x80 by omega)]
    by_cases htwo : m < 0x800
    · rw [if_pos htwo]
      split
      · apply two_bytes_lt hnat
        omega
      · split
        all_goals apply byte_lt <;> omega
    · rw [if_neg htwo, if_neg (show ¬ n < 0x800 by omega)]
      by_cases hmany : m < 0x10000
      · rw [if_pos hmany]
        split
        · apply three_bytes_lt hnat
          omega
        · apply byte_lt <;> omega
      · rw [if_neg hmany, if_neg (show ¬ n < 0x10000 by omega)]
        apply four_bytes_lt hnat
        omega

theorem nil_lt_encodeChar (c : Char) (rest : List UInt8) : [] < encodeChar c ++ rest := by
  unfold encodeChar
  extract_lets n
  repeat' split
  all_goals exact List.nil_lt_cons _ _

theorem flatMap_encodeChar_lt {cs ds : List Char} (hlt : cs < ds) :
    cs.flatMap encodeChar < ds.flatMap encodeChar := by
  induction hlt with
  | nil => exact nil_lt_encodeChar _ _
  | cons hrest ih => exact append_lt _ ih
  | rel hfirst => exact encodeChar_lt hfirst _ _

/-- Texts are in the order of their encodings. -/
theorem encode_lt_iff {s t : String} : encode s < encode t ↔ s < t := by
  refine ⟨fun hlt => ?_, fun hlt => flatMap_encodeChar_lt hlt⟩
  rcases String.le_total s t with hle | hge
  · rcases Std.le_iff_lt_or_eq.mp hle with hbelow | heq
    · exact hbelow
    · exact absurd (heq ▸ hlt) (List.lt_irrefl _)
  · rcases Std.le_iff_lt_or_eq.mp hge with habove | heq
    · exact absurd hlt (List.lt_asymm (flatMap_encodeChar_lt habove))
    · exact absurd (heq ▸ hlt) (List.lt_irrefl _)

end PolicyRollout.Text
