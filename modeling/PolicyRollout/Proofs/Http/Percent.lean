import PolicyRollout.Http.Percent
import PolicyRollout.Proofs.Text.Utf8
/-!
Percent encoding loses nothing.  Decoding gives back the bytes of what was encoded, whatever the
characters that are safe, as long as a percent sign is none of them; and what is encoded holds safe
characters, percent signs, letters and digits only.
-/
namespace PolicyRollout.Http

open Text (encodeChar)

/-- The digits of a code are read as the number that they stand for. -/
theorem digit?_toUpper_hexDigit (n : Nat) :
    Text.digit? 16 (Text.hexDigit n).toUpper = some (n % 16) := by
  have hall : ∀ k < 16, Text.digit? 16 k.digitChar.toUpper = some k := by decide
  exact hall (n % 16) (Nat.mod_lt n (by decide))

theorem isAlphanum_toUpper_hexDigit (n : Nat) : (Text.hexDigit n).toUpper.isAlphanum = true := by
  have hall : ∀ k < 16, k.digitChar.toUpper.isAlphanum = true := by decide
  exact hall (n % 16) (Nat.mod_lt n (by decide))

theorem percentDecode_percentByte (b : UInt8) (rest : List Char) :
    percentDecode (percentByte b ++ rest) = b :: percentDecode rest := by
  have hbyte : 16 * (b.toNat / 16 % 16) + b.toNat % 16 = b.toNat := by
    have hlt := b.toNat_lt
    omega
  simp only [percentByte, List.cons_append, List.nil_append, percentDecode, digit?_toUpper_hexDigit, hbyte]
  rw [Nat.toUInt8_eq, UInt8.ofNat_toNat]

theorem percentDecode_percentBytes (bytes : List UInt8) (rest : List Char) :
    percentDecode (bytes.flatMap percentByte ++ rest) = bytes ++ percentDecode rest := by
  induction bytes with
  | nil => rfl
  | cons b bytes ih =>
      rw [List.flatMap_cons, List.append_assoc, percentDecode_percentByte, ih, List.cons_append]

/-- Other characters than a percent sign stand for themselves. -/
theorem percentDecode_cons {c : Char} (hc : c ≠ '%') (rest : List Char) :
    percentDecode (c :: rest) = encodeChar c ++ percentDecode rest := by
  rw [percentDecode]
  intro a b rest hpercent
  contradiction

section Encoded

variable {safe : Char → Bool}

theorem percentDecode_percentChar (hsafe : safe '%' = false) (c : Char) (rest : List Char) :
    percentDecode (percentChar safe c ++ rest) = encodeChar c ++ percentDecode rest := by
  unfold percentChar
  by_cases hc : safe c = true
  · have hne : c ≠ '%' := by
      rintro rfl
      rw [hsafe] at hc
      contradiction
    rw [if_pos hc]
    exact percentDecode_cons hne rest
  · rw [if_neg hc, percentDecode_percentBytes]

/-- What was encoded is decoded to its bytes. -/
theorem percentDecode_percentEncode (hsafe : safe '%' = false) (cs : List Char) :
    percentDecode (percentEncode safe cs) = cs.flatMap encodeChar := by
  induction cs with
  | nil => rfl
  | cons c cs ih =>
      rw [percentEncode, List.flatMap_cons, percentDecode_percentChar hsafe, List.flatMap_cons]
      exact congrArg (encodeChar c ++ ·) ih

theorem mem_percentByte {b : UInt8} {c : Char} (hc : c ∈ percentByte b) :
    c = '%' ∨ c.isAlphanum = true := by
  simp only [percentByte, List.mem_cons, List.not_mem_nil, or_false] at hc
  rcases hc with rfl | rfl | rfl
  · exact Or.inl rfl
  · exact Or.inr (isAlphanum_toUpper_hexDigit _)
  · exact Or.inr (isAlphanum_toUpper_hexDigit _)

theorem mem_percentChar {c d : Char} (hd : d ∈ percentChar safe c) :
    safe d = true ∨ d = '%' ∨ d.isAlphanum = true := by
  unfold percentChar at hd
  by_cases hc : safe c = true
  · rw [if_pos hc, List.mem_singleton] at hd
    exact Or.inl (hd ▸ hc)
  · rw [if_neg hc] at hd
    obtain ⟨b, _, hb⟩ := List.mem_flatMap.mp hd
    exact Or.inr (mem_percentByte hb)

theorem mem_percentEncode {cs : List Char} {d : Char} (hd : d ∈ percentEncode safe cs) :
    safe d = true ∨ d = '%' ∨ d.isAlphanum = true := by
  obtain ⟨c, _, hc⟩ := List.mem_flatMap.mp hd
  exact mem_percentChar hc

/-- Safe characters are left as they are. -/
theorem percentEncode_eq_self {cs : List Char} (hcs : ∀ c ∈ cs, safe c = true) :
    percentEncode safe cs = cs := by
  induction cs with
  | nil => rfl
  | cons c cs ih =>
      obtain ⟨hc, hrest⟩ := List.forall_mem_cons.mp hcs
      rw [percentEncode, List.flatMap_cons, percentChar, if_pos hc]
      exact congrArg (c :: ·) (ih hrest)

end Encoded

section Segments

/-- A segment is decoded to the text that it was made from. -/
theorem decode_encodeSegment (text : String) :
    Text.decodeLenient (percentDecode (encodeSegment text)) = text := by
  rw [encodeSegment, percentDecode_percentEncode (by decide)]
  exact Text.decodeLenient_encode text

theorem encodeSegment_injective {text text' : String}
    (heq : encodeSegment text = encodeSegment text') : text = text' := by
  rw [← decode_encodeSegment text, heq, decode_encodeSegment]

end Segments

end PolicyRollout.Http
