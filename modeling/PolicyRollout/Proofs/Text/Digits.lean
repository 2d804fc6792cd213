import PolicyRollout.Text.Basic
/-!
Digits and the numbers they spell.  A number that is written in a base is read in that base, and
a decimal number is read from any run of decimal digits and from nothing else, but for one plus
sign before it.
-/
namespace PolicyRollout.Text

section Bases

variable {base : Nat}

theorem digit?_of_lt {c : Char} {d : Nat} (hdigit : digit? 16 c = some d) (hlt : d < base) :
    digit? base c = some d := by
  rw [digit?, Option.filter_eq_some_iff] at hdigit ⊢
  exact ⟨hdigit.1, by simpa using hlt⟩

theorem digit?_digitChar (hbase : base ≤ 16) {d : Nat} (hd : d < base) :
    digit? base (Nat.digitChar d) = some d := by
  have hsixteen : ∀ d < 16, digit? 16 (Nat.digitChar d) = some d := by decide
  exact digit?_of_lt (hsixteen d (by omega)) hd

/-- A text is read piece by piece. -/
theorem appendDigits_append (value : Nat) (front back : List Char) :
    appendDigits base value (front ++ back) =
      (appendDigits base value front).bind fun n => appendDigits base n back := by
  induction front generalizing value with
  | nil => rfl
  | cons c rest ih =>
      simp only [List.cons_append, appendDigits]
      cases digit? base c with
      | none => rfl
      | some d => exact ih _

theorem appendDigits_toDigits (hpos : 1 < base) (hbase : base ≤ 16) (n : Nat) :
    appendDigits base 0 (Nat.toDigits base n) = some n := by
  induction n using Nat.strongRecOn with
  | ind n ih =>
      by_cases hlt : n < base
      · rw [Nat.toDigits_of_lt_base hlt]
        simp [appendDigits, digit?_digitChar hbase hlt]
      · have hfront := ih (n / base) (Nat.div_lt_self (by omega) hpos)
        have hlast := digit?_digitChar hbase (Nat.mod_lt n (by omega))
        rw [Nat.toDigits_of_base_le hpos (by omega), appendDigits_append, hfront]
        simp [appendDigits, hlast, Nat.div_add_mod']

theorem natural?_of_ne_nil {cs : List Char} (hne : cs ≠ []) :
    natural? base cs = appendDigits base 0 cs := by
  cases cs with
  | nil => contradiction
  | cons c rest => rfl

/-- What is written in a base is read in it. -/
theorem natural?_toDigits (hpos : 1 < base) (hbase : base ≤ 16) (n : Nat) :
    natural? base (Nat.toDigits base n) = some n := by
  rw [natural?_of_ne_nil Nat.toDigits_ne_nil]
  exact appendDigits_toDigits hpos hbase n

/-- A text that does not go on with a digit of the base. -/
def NoDigitAhead (base : Nat) (rest : List Char) : Prop :=
  ∀ c ∈ rest.head?, digit? base c = none

theorem noDigitAhead_nil : NoDigitAhead base [] := by
  simp [NoDigitAhead]

theorem noDigitAhead_cons {c : Char} (hc : digit? base c = none) (rest : List Char) :
    NoDigitAhead base (c :: rest) := by
  simpa [NoDigitAhead] using hc

theorem isSome_digit?_of_mem_toDigits (hpos : 1 < base) (hbase : base ≤ 16) {n : Nat} {c : Char}
    (hc : c ∈ Nat.toDigits base n) : (digit? base c).isSome = true := by
  induction n using Nat.strongRecOn with
  | ind n ih =>
      by_cases hlt : n < base
      · rw [Nat.toDigits_of_lt_base hlt, List.mem_singleton] at hc
        rw [hc, digit?_digitChar hbase hlt]
        rfl
      · rw [Nat.toDigits_of_base_le hpos (by omega), List.mem_append, List.mem_singleton] at hc
        rcases hc with hfront | rfl
        · exact ih (n / base) (Nat.div_lt_self (by omega) hpos) hfront
        · rw [digit?_digitChar hbase (Nat.mod_lt n (by omega))]
          rfl

end Bases

section Decimal

variable {cs digits : List Char} {n limit : Nat}

/-- Digits, at least one of them, that spell a number in decimal notation. -/
structure Spells (digits : List Char) (n : Nat) : Prop where
  ne_nil : digits ≠ []
  isDigit : ∀ c ∈ digits, c.isDigit = true
  value_eq : Nat.ofDigitChars 10 digits 0 = n

theorem digit?_ten_eq_some_iff {c : Char} {d : Nat} :
    digit? 10 c = some d ↔ c.isDigit = true ∧ c.toNat - 48 = d := by
  rw [digit?, Option.filter_eq_some_iff, Char.isDigit_iff_toNat]
  grind

theorem appendDigits_ten_eq_some_iff {value : Nat} :
    appendDigits 10 value digits = some n ↔
      (∀ c ∈ digits, c.isDigit = true) ∧ Nat.ofDigitChars 10 digits value = n := by
  induction digits generalizing value with
  | nil => simp [appendDigits]
  | cons c rest ih =>
      rw [List.forall_mem_cons, Nat.ofDigitChars_cons, Nat.mul_comm 10 value]
      cases hdigit : digit? 10 c with
      | none =>
          have hno : c.isDigit ≠ true := fun hc => by
            rw [digit?_ten_eq_some_iff.mpr ⟨hc, rfl⟩] at hdigit
            cases hdigit
          simp [appendDigits, hdigit, hno]
      | some d =>
          obtain ⟨hc, rfl⟩ := digit?_ten_eq_some_iff.mp hdigit
          simp only [appendDigits, hdigit, ih, hc, true_and]
          rfl

theorem natural?_ten_eq_some_iff : natural? 10 digits = some n ↔ Spells digits n := by
  by_cases hne : digits = []
  · subst hne
    exact ⟨nofun, fun hspells => absurd rfl hspells.ne_nil⟩
  · rw [natural?_of_ne_nil hne, appendDigits_ten_eq_some_iff]
    exact ⟨fun ⟨hdigits, hvalue⟩ => ⟨hne, hdigits, hvalue⟩,
      fun hspells => ⟨hspells.isDigit, hspells.value_eq⟩⟩

theorem Spells.not_mem (hspells : Spells digits n) {c : Char} (hc : c.isDigit = false) :
    c ∉ digits := by
  intro hmem
  rw [hspells.isDigit c hmem] at hc
  cases hc

theorem spells_decimal (n : Nat) : Spells (decimal n) n :=
  natural?_ten_eq_some_iff.mp (natural?_toDigits (by decide) (by decide) n)

theorem limited_eq_some_iff :
    (natural? 10 digits).filter (· ≤ limit) = some n ↔ Spells digits n ∧ n ≤ limit := by
  rw [Option.filter_eq_some_iff, decide_eq_true_eq, natural?_ten_eq_some_iff]

/-- One plus sign may stand before the digits of a number. -/
theorem unsigned?_eq_some_iff : unsigned? limit cs = some n ↔
    (∃ digits, (cs = digits ∨ cs = '+' :: digits) ∧ Spells digits n) ∧ n ≤ limit := by
  by_cases hplus : ∃ rest, cs = '+' :: rest
  · obtain ⟨rest, rfl⟩ := hplus
    have hread : unsigned? limit ('+' :: rest) = (natural? 10 rest).filter (· ≤ limit) := rfl
    rw [hread, limited_eq_some_iff]
    refine and_congr_left fun _ => ⟨fun hspells => ⟨rest, Or.inr rfl, hspells⟩, ?_⟩
    rintro ⟨digits, rfl | heq, hspells⟩
    · exact absurd List.mem_cons_self (hspells.not_mem (by decide))
    · exact (List.cons.inj heq).2 ▸ hspells
  · have hread : unsigned? limit cs = (natural? 10 cs).filter (· ≤ limit) := by
      unfold unsigned?
      split
      · exact absurd ⟨_, rfl⟩ hplus
      · rfl
    rw [hread, limited_eq_some_iff]
    refine and_congr_left fun _ => ⟨fun hspells => ⟨cs, Or.inl rfl, hspells⟩, ?_⟩
    rintro ⟨digits, rfl | rfl, hspells⟩
    · exact hspells
    · exact absurd ⟨digits, rfl⟩ hplus

end Decimal

end PolicyRollout.Text
