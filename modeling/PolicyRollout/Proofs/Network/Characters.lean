import Mathlib.Data.List.TakeWhile
import PolicyRollout.Network.Cidr
/-!
The characters of an address.  Every reader takes hexadecimal digits, dots and colons only and
leaves the rest as it was, so a text that is an address holds no other character: no blank,
no comma and no slash.
-/
namespace PolicyRollout.Network

def IsAddressChar (c : Char) : Prop :=
  (Text.digit? 16 c).isSome ∨ c = '.' ∨ c = ':'

namespace IsAddressChar

variable {c : Char}

theorem toNat (hc : IsAddressChar c) : (48 ≤ c.toNat ∧ c.toNat ≤ 57) ∨
    (65 ≤ c.toNat ∧ c.toNat ≤ 70) ∨ (97 ≤ c.toNat ∧ c.toNat ≤ 102) ∨ c.toNat = 46 ∨
    c.toNat = 58 := by
  rcases hc with hdigit | rfl | rfl
  · rw [Option.isSome_iff_exists] at hdigit
    obtain ⟨value, hvalue⟩ := hdigit
    rw [Text.digit?, Option.filter_eq_some_iff] at hvalue
    obtain ⟨hranges, _⟩ := hvalue
    grind
  · simp
  · simp

theorem not_blank (hc : IsAddressChar c) : Text.isBlank c = false := by
  have hnat := hc.toNat
  simp only [Text.isBlank, Bool.or_eq_false_iff, Bool.and_eq_false_iff, decide_eq_false_iff_not,
    beq_eq_false_iff_ne]
  omega

theorem ne_comma (hc : IsAddressChar c) : c ≠ ',' := by
  rintro rfl
  exact absurd hc.toNat (by decide)

theorem ne_slash (hc : IsAddressChar c) : c ≠ '/' := by
  rintro rfl
  exact absurd hc.toNat (by decide)

theorem ne_sign (hc : IsAddressChar c) : c ≠ '+' ∧ c ≠ '-' := by
  constructor
  · rintro rfl
    exact absurd hc.toNat (by decide)
  · rintro rfl
    exact absurd hc.toNat (by decide)

end IsAddressChar

/-- The rest is what is left of a text when some address characters before it are taken. -/
def Takes (cs rest : List Char) : Prop :=
  ∃ taken, cs = taken ++ rest ∧ ∀ c ∈ taken, IsAddressChar c

namespace Takes

variable {cs middle rest : List Char} {c : Char}

theorem refl (cs : List Char) : Takes cs cs :=
  ⟨[], rfl, by simp⟩

theorem cons (hc : IsAddressChar c) (htakes : Takes cs rest) : Takes (c :: cs) rest := by
  obtain ⟨taken, rfl, htaken⟩ := htakes
  exact ⟨c :: taken, rfl, List.forall_mem_cons.mpr ⟨hc, htaken⟩⟩

theorem trans (hfirst : Takes cs middle) (hsecond : Takes middle rest) : Takes cs rest := by
  obtain ⟨taken, rfl, htaken⟩ := hfirst
  obtain ⟨more, rfl, hmore⟩ := hsecond
  exact ⟨taken ++ more, (List.append_assoc ..).symm, List.forall_mem_append.mpr ⟨htaken, hmore⟩⟩

instance : Trans Takes Takes Takes := ⟨trans⟩

/-- When nothing is left, every character was taken. -/
theorem forall_mem (htakes : Takes cs []) : ∀ c ∈ cs, IsAddressChar c := by
  obtain ⟨taken, rfl, htaken⟩ := htakes
  rwa [List.append_nil]

end Takes

/-- The digits of a smaller base are digits of base sixteen. -/
theorem isAddressChar_of_digit {base : Nat} (hbase : base ≤ 16) {c : Char} {value : Nat}
    (hdigit : Text.digit? base c = some value) : IsAddressChar c := by
  rw [Text.digit?, Option.filter_eq_some_iff, decide_eq_true_eq] at hdigit
  obtain ⟨hvalue, hlt⟩ := hdigit
  left
  rw [Option.isSome_iff_exists]
  refine ⟨value, ?_⟩
  rw [Text.digit?, Option.filter_eq_some_iff, decide_eq_true_eq]
  exact ⟨hvalue, by omega⟩

theorem takeDigits_takes {base : Nat} (hbase : base ≤ 16) (cs : List Char) :
    Takes cs (takeDigits base cs).2 := by
  induction cs with
  | nil => exact .refl []
  | cons c rest ih =>
      unfold takeDigits
      cases hdigit : Text.digit? base c with
      | none => exact .refl _
      | some value => exact ih.cons (isAddressChar_of_digit hbase hdigit)

theorem takeOctet_rest {cs rest : List Char} {n : UInt8} (h : takeOctet cs = some (n, rest)) :
    (takeDigits 10 cs).2 = rest := by
  simp only [takeOctet] at h
  grind

theorem takeOctet_takes {cs rest : List Char} {n : UInt8} (h : takeOctet cs = some (n, rest)) :
    Takes cs rest :=
  takeOctet_rest h ▸ takeDigits_takes (by decide) cs

theorem takeGroup_takes {cs rest : List Char} {n : UInt16} (h : takeGroup cs = some (n, rest)) :
    Takes cs rest := by
  have hrest : (takeDigits 16 cs).2 = rest := by
    simp only [takeGroup] at h
    grind
  exact hrest ▸ takeDigits_takes (by decide) cs

theorem takeChar_eq_some_iff {c : Char} {cs rest : List Char} :
    takeChar c cs = some rest ↔ cs = c :: rest := by
  cases cs with
  | nil => simp [takeChar]
  | cons d tail => simp [takeChar, eq_comm]

theorem takeDot_takes {cs rest : List Char} (h : takeChar '.' cs = some rest) :
    Takes cs rest := by
  obtain rfl := takeChar_eq_some_iff.mp h
  exact (Takes.refl rest).cons (Or.inr (Or.inl rfl))

theorem takeV4_takes {cs rest : List Char} {ip : V4} (h : takeV4 cs = some (ip, rest)) :
    Takes cs rest := by
  simp only [takeV4, bind, Option.bind_eq_some_iff, Prod.exists, pure, Option.some_inj,
    Prod.mk.injEq] at h
  obtain ⟨_, cs₁, ha, cs₂, hdot₁, _, cs₃, hb, cs₄, hdot₂, _, cs₅, hc, cs₆, hdot₃, _, cs₇, hd,
    _, rfl⟩ := h
  calc
    Takes cs cs₁ := takeOctet_takes ha
    Takes _ cs₂ := takeDot_takes hdot₁
    Takes _ cs₃ := takeOctet_takes hb
    Takes _ cs₄ := takeDot_takes hdot₂
    Takes _ cs₅ := takeOctet_takes hc
    Takes _ cs₆ := takeDot_takes hdot₃
    Takes _ cs₇ := takeOctet_takes hd

theorem takeGroups_takes (room : Nat) (first : Bool) (cs : List Char) :
    Takes cs (takeGroups room first cs).2.2 := by
  induction room generalizing first cs with
  | zero => exact .refl cs
  | succ room ih =>
      -- Wherever no further group is found the text is left as it was, colon included.
      simp only [takeGroups]
      split
      · exact .refl cs
      · rename_i body hstart
        have hbody : Takes cs body := by
          cases first with
          | true => exact Option.some_inj.mp hstart ▸ .refl cs
          | false =>
              obtain rfl := takeChar_eq_some_iff.mp hstart
              exact (Takes.refl body).cons (Or.inr (Or.inr rfl))
        split
        · rename_i hembedded
          have hv4 := (Option.ite_none_left_eq_some.mp hembedded).2
          exact hbody.trans (takeV4_takes hv4)
        · split
          · exact .refl cs
          · rename_i hgroup
            exact (hbody.trans (takeGroup_takes hgroup)).trans (ih false _)

/-- Groups are read before the gap, if there is one, and behind it. -/
theorem takeV6_takes {cs rest : List Char} {ip : V6} (h : takeV6 cs = some (ip, rest)) :
    Takes cs rest := by
  have hhead := takeGroups_takes 8 true cs
  unfold takeV6 at h
  rcases hread : takeGroups 8 true cs with ⟨head, embedded, afterHead⟩
  simp only [hread] at h hhead
  by_cases hfull : head.length = 8
  · simp only [hfull, if_true, Option.map_eq_some_iff, Prod.mk.injEq] at h
    obtain ⟨_, _, _, rfl⟩ := h
    exact hhead
  · rw [if_neg hfull] at h
    split at h
    · contradiction
    · split at h
      · rename_i afterGap
        simp only [Option.map_eq_some_iff, Prod.mk.injEq] at h
        obtain ⟨_, _, _, rfl⟩ := h
        have hcolon : IsAddressChar ':' := Or.inr (Or.inr rfl)
        have htail := takeGroups_takes (7 - head.length) true afterGap
        exact hhead.trans ((htail.cons hcolon).cons hcolon)
      · contradiction

/-- Nothing may be left of a text that is an address. -/
theorem Address.isAddressChar_of_ofChars? {cs : List Char} {ip : Address}
    (h : ofChars? cs = some ip) : ∀ c ∈ cs, IsAddressChar c := by
  unfold ofChars? at h
  cases hv4 : takeV4 cs with
  | some read =>
      obtain ⟨v4, rest⟩ := read
      simp only [hv4, Option.ite_none_right_eq_some, List.isEmpty_iff] at h
      obtain ⟨rfl, _⟩ := h
      exact (takeV4_takes hv4).forall_mem
  | none =>
      cases hv6 : takeV6 cs with
      | some read =>
          obtain ⟨v6, rest⟩ := read
          simp only [hv4, hv6, Option.ite_none_right_eq_some, List.isEmpty_iff] at h
          obtain ⟨rfl, _⟩ := h
          exact (takeV6_takes hv6).forall_mem
      | none => simp [hv4, hv6] at h

end PolicyRollout.Network
