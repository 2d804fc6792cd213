import PolicyRollout.Json.Reader
/-!
Strings are read back from what they are escaped to.
-/
namespace PolicyRollout.Json

open Text (Symbol)

/-- Two hexadecimal digits hold every control character. -/
theorem natural?_hexDigits : ∀ n < 0x20,
    Text.natural? 16 ['0', '0', Text.hexDigit (n / 16), Text.hexDigit n] = some n := by
  decide

theorem readString_plain {c : Char} (hquote : c ≠ '"') (hslash : c ≠ '\\')
    (hplain : 0x20 ≤ c.toNat) (rest : List Symbol) :
    readString none (.char c :: rest) = (readString none rest).push c := by
  have hcontrol : ¬ c.toNat < 0x20 := Nat.not_lt.mpr hplain
  rw [readString.eq_def]
  simp [hquote, hslash, hcontrol]

theorem readString_simple {e c : Char} (he : simpleEscape? e = some c) (rest : List Symbol) :
    readString none (.char '\\' :: .char e :: rest) = (readString none rest).push c := by
  have hu : e ≠ 'u' := by
    rintro rfl
    contradiction
  rw [readString.eq_def]
  dsimp only
  rw [if_neg (by decide), if_pos rfl]
  split
  · contradiction
  · simp_all
  · simp_all
  · simp_all

theorem readString_control {c : Char} (hcontrol : c.toNat < 0x20) (rest : List Symbol) :
    readString none (.char '\\' :: .char 'u' :: .char '0' :: .char '0' ::
      .char (Text.hexDigit (c.toNat / 16)) :: .char (Text.hexDigit c.toNat) :: rest) =
      (readString none rest).push c := by
  have hunit := natural?_hexDigits c.toNat hcontrol
  have hleading : isLeading c.toNat = false := by
    simp [isLeading]
    omega
  have htrailing : isTrailing c.toNat = false := by
    simp [isTrailing]
    omega
  rw [readString]
  simp [unit?, hunit, hleading, htrailing]

/-- A character is read back from what stands for it in a string. -/
theorem readString_escapeChar (c : Char) (rest : List Symbol) :
    readString none ((escapeChar c).map .char ++ rest) = (readString none rest).push c := by
  unfold escapeChar
  by_cases hquote : c = '"'
  · rw [if_pos hquote]
    exact readString_simple (by rw [hquote]; rfl) rest
  by_cases hslash : c = '\\'
  · rw [if_neg hquote, if_pos hslash]
    exact readString_simple (by rw [hslash]; rfl) rest
  by_cases hplain : 0x20 ≤ c.toNat
  · rw [if_neg hquote, if_neg hslash, if_pos hplain]
    exact readString_plain hquote hslash hplain rest
  rw [if_neg hquote, if_neg hslash, if_neg hplain]
  by_cases hback : c.toNat = 8
  · rw [if_pos hback]
    exact readString_simple (by rw [← Char.ofNat_toNat c, hback]; rfl) rest
  by_cases htab : c = '\t'
  · rw [if_neg hback, if_pos htab]
    exact readString_simple (by rw [htab]; rfl) rest
  by_cases hline : c = '\n'
  · rw [if_neg hback, if_neg htab, if_pos hline]
    exact readString_simple (by rw [hline]; rfl) rest
  rw [if_neg hback, if_neg htab, if_neg hline]
  by_cases hfeed : c.toNat = 12
  · rw [if_pos hfeed]
    exact readString_simple (by rw [← Char.ofNat_toNat c, hfeed]; rfl) rest
  by_cases hreturn : c = '\r'
  · rw [if_neg hfeed, if_pos hreturn]
    exact readString_simple (by rw [hreturn]; rfl) rest
  rw [if_neg hfeed, if_neg hreturn]
  exact readString_control (Nat.not_le.mp hplain) rest

/-- A string is read back from what stands between its quotes. -/
theorem readString_escaped (chars : List Char) (rest : List Symbol) :
    readString none ((chars.flatMap escapeChar).map .char ++ .char '"' :: rest) =
      .ok (⟨chars, none⟩, rest) := by
  induction chars with
  | nil =>
      rw [readString.eq_def]
      rfl
  | cons c chars ih =>
      rw [List.flatMap_cons, List.map_append, List.append_assoc, readString_escapeChar, ih]
      rfl

end PolicyRollout.Json
