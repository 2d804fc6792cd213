import PolicyRollout.Json.Reader
/-!
Integers of 64 bits are read from the digits they are written with.
-/
namespace PolicyRollout

namespace Text

theorem decimal_of_lt {n : Nat} (h : n < 10) : decimal n = [Nat.digitChar n] :=
  Nat.toDigits_of_lt_base h

theorem decimal_of_le {n : Nat} (h : 10 ≤ n) :
    decimal n = decimal (n / 10) ++ [Nat.digitChar (n % 10)] :=
  Nat.toDigits_of_base_le (by decide) h

theorem isDigit_of_mem_decimal {n : Nat} {c : Char} (hc : c ∈ decimal n) : c.isDigit = true :=
  Nat.isDigit_of_mem_toDigits (by decide) (by decide) hc

theorem decimal_ne_nil (n : Nat) : decimal n ≠ [] :=
  Nat.toDigits_ne_nil

theorem toNat_digitChar : ∀ d < 10, (Nat.digitChar d).toNat - 48 = d := by
  decide

theorem digitChar_ne_zero : ∀ d < 10, 0 < d → Nat.digitChar d ≠ '0' := by
  decide

/-- A positive number is written without a leading zero. -/
theorem decimal_head_ne {n : Nat} (hpos : 0 < n) {c : Char} {rest : List Char}
    (hdecimal : decimal n = c :: rest) : c ≠ '0' := by
  induction n using Nat.strongRecOn generalizing c rest with
  | ind n ih =>
      by_cases hlt : n < 10
      · rw [decimal_of_lt hlt, List.cons.injEq] at hdecimal
        rw [← hdecimal.1]
        exact digitChar_ne_zero n hlt hpos
      · obtain ⟨d, more, hmore⟩ := List.exists_cons_of_ne_nil (decimal_ne_nil (n / 10))
        rw [decimal_of_le (by omega), hmore, List.cons_append, List.cons.injEq] at hdecimal
        rw [← hdecimal.1]
        exact ih (n / 10) (by omega) (by omega) hmore

end Text

namespace Json

open Text (Symbol)

/-- A text whose first symbol cannot belong to an integer before it. -/
def Apart : List Symbol → Prop
  | .char c :: _ => c.isDigit = false ∧ c ≠ '.' ∧ c ≠ 'e' ∧ c ≠ 'E'
  | _ => True

theorem takeDigits_append {digits : List Char} (hdigits : ∀ c ∈ digits, c.isDigit = true)
    {rest : List Symbol} (hrest : Apart rest) :
    takeDigits (digits.map .char ++ rest) = (digits, rest) := by
  induction digits with
  | nil =>
      cases rest with
      | nil => rfl
      | cons first more =>
          cases first with
          | stray => rfl
          | char c => simp [takeDigits, hrest.1]
  | cons c digits ih =>
      have hc := hdigits c List.mem_cons_self
      have hmore := ih fun d hd => hdigits d (List.mem_cons_of_mem c hd)
      simp [takeDigits, hc, hmore]

theorem weigh_append {first : List Char} {start reached : Nat}
    (hfirst : weigh start first = (reached, 0)) (second : List Char) :
    weigh start (first ++ second) = weigh reached second := by
  induction first generalizing start with
  | nil =>
      simp only [weigh, Prod.mk.injEq, and_true] at hfirst
      rw [hfirst, List.nil_append]
  | cons c rest ih =>
      simp only [weigh] at hfirst
      split at hfirst
      · rename_i hle
        simp only [List.cons_append, weigh, hle, if_true]
        exact ih hfirst
      · simp at hfirst

/-- The digits of a number of 64 bits weigh that number. -/
theorem weigh_decimal {n : Nat} (hn : n ≤ maxNatural64) : weigh 0 (Text.decimal n) = (n, 0) := by
  induction n using Nat.strongRecOn with
  | ind n ih =>
      by_cases hlt : n < 10
      · simp [Text.decimal_of_lt hlt, weigh, Text.toNat_digitChar n hlt, hn]
      · have hfront := ih (n / 10) (by omega) (by omega)
        have hlast := Text.toNat_digitChar (n % 10) (by omega)
        have hsum : n / 10 * 10 + n % 10 = n := by omega
        rw [Text.decimal_of_le (by omega), weigh_append hfront]
        simp [weigh, hlast, hsum, hn]

theorem takeWhole_decimal (n : Nat) {rest : List Symbol} (hrest : Apart rest) :
    takeWhole ((Text.decimal n).map .char ++ rest) = .ok (Text.decimal n, rest) := by
  have hdigits : takeDigits ((Text.decimal n).map .char ++ rest) = (Text.decimal n, rest) :=
    takeDigits_append (fun c hc => Text.isDigit_of_mem_decimal hc) hrest
  have hlone : ∀ c more, Text.decimal n ≠ '0' :: c :: more := by
    intro c more hzero
    rcases Nat.eq_zero_or_pos n with rfl | hpos
    · simp [Text.decimal] at hzero
    · exact Text.decimal_head_ne hpos hzero rfl
  unfold takeWhole
  rw [hdigits]
  split
  · rename_i hnone
    exact absurd (congrArg Prod.fst hnone) (Text.decimal_ne_nil n)
  · rename_i hzero
    exact absurd (congrArg Prod.fst hzero) (hlone _ _)
  · rename_i heq
    rw [← heq]

/-- The digits of an integer and what stands apart from them make up a numeral. -/
theorem takeNumeral_decimal (negative : Bool) (n : Nat) {rest : List Symbol} (hrest : Apart rest) :
    takeNumeral negative ((Text.decimal n).map .char ++ rest) =
      .ok (⟨negative, Text.decimal n, none, none⟩, rest) := by
  have hfraction : takeFraction rest = .ok (none, rest) := by
    unfold takeFraction
    split
    · exact absurd rfl hrest.2.1
    · rfl
  have hpower : takePower rest = .ok (none, rest) := by
    unfold takePower
    split
    · simp [hrest.2.2.1, hrest.2.2.2]
    · rfl
  simp only [takeNumeral, takeWhole_decimal n hrest, hfraction, hpower, bind, Except.bind]
  rfl

/-- An integer of 64 bits. -/
def Number.Exact : Number → Prop
  | .natural n => n ≤ maxNatural64
  | .negative n => 0 < n ∧ n ≤ maxInteger64 + 1
  | .float _ => False

theorem readNumber_natural {n : Nat} (hn : n ≤ maxNatural64) {rest : List Symbol}
    (hrest : Apart rest) :
    readNumber false ((Text.decimal n).map .char ++ rest) =
      (.ofValue (.number (.natural n)), some rest) := by
  simp [readNumber, takeNumeral_decimal false n hrest, Numeral.value?, weigh_decimal hn,
    Document.Node.ofValue]

theorem readNumber_negative {n : Nat} (hpos : 0 < n) (hn : n ≤ maxInteger64 + 1)
    {rest : List Symbol} (hrest : Apart rest) :
    readNumber true ((Text.decimal n).map .char ++ rest) =
      (.ofValue (.number (.negative n)), some rest) := by
  have hwide : n ≤ maxNatural64 := by
    unfold maxNatural64
    unfold maxInteger64 at hn
    omega
  simp [readNumber, takeNumeral_decimal true n hrest, Numeral.value?, weigh_decimal hwide,
    Document.Node.ofValue, Nat.pos_iff_ne_zero.mp hpos, hn]

end Json

end PolicyRollout
