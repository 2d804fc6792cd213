import PolicyRollout.Text.Lowercase
/-!
Lower case and ASCII.  Of all characters that are not ASCII only the kelvin sign has a lower case
that is ASCII, and that is the letter k.  A text therefore has an ASCII lower case without a k
exactly if it is that text but for the case of ASCII letters.
-/
namespace PolicyRollout.Text

/-- Texts that differ in nothing but the case of ASCII letters. -/
def SameButCase (s t : String) : Prop :=
  s.toList.map Char.toLower = t.toList.map Char.toLower

/-- A lower case of some characters: that of each of them, a capital sigma either in its medial
or in its final form. -/
inductive Lowers : List Char → List Char → Prop
  | nil : Lowers [] []
  | cons (c : Char) {cs lower : List Char} (hrest : Lowers cs lower) :
      Lowers (c :: cs) (lowercaseChar c ++ lower)
  | finalSigma {cs lower : List Char} (hrest : Lowers cs lower) :
      Lowers ('Σ' :: cs) ('ς' :: lower)

/-- Where a run may take the characters it moves: past ASCII and to characters only.  The runs of
the capital letters and of the kelvin sign are the two that lead to ASCII. -/
def CaseRun.Outside (run : CaseRun) : Prop :=
  128 ≤ run.first + run.offset ∧
    (run.last + run.offset < 0xD800 ∨
      0xE000 ≤ run.first + run.offset ∧ run.last + run.offset < 0x110000)

instance (run : CaseRun) : Decidable run.Outside :=
  inferInstanceAs (Decidable (_ ∧ _))

theorem lowercaseRuns_outside :
    ∀ run ∈ lowercaseRuns, run.last < 128 ∨ run.first = 0x212A ∧ run.last = 0x212A ∨
      run.Outside := by
  decide +kernel

theorem CaseRun.Outside.le_toNat {run : CaseRun} (houtside : run.Outside) {n : Nat}
    (hcovers : run.covers n = true) : 128 ≤ (Char.ofNat (n + run.offset).toNat).toNat := by
  obtain ⟨hlow, hvalid⟩ := houtside
  simp only [covers, Bool.and_eq_true, decide_eq_true_eq] at hcovers
  obtain ⟨⟨hfirst, hlast⟩, _⟩ := hcovers
  have hchar : (n + run.offset).toNat.isValidChar := by
    unfold Nat.isValidChar
    omega
  rw [Char.ofNat, dif_pos hchar]
  change 128 ≤ (n + run.offset).toNat
  omega

variable {c : Char} {cs lower : List Char}

theorem lowercaseChar_of_ascii (hc : c.toNat < 128) : lowercaseChar c = [c.toLower] := by
  have hall : ∀ n < 128, lowercaseChar (Char.ofNat n) = [(Char.ofNat n).toLower] := by
    decide +kernel
  have hread := hall c.toNat hc
  rwa [Char.ofNat_toNat] at hread

/-- The lower case of a character that is not ASCII is not ASCII. -/
theorem exists_mem_lowercaseChar (hc : 128 ≤ c.toNat) (hkelvin : c.toNat ≠ 0x212A) :
    ∃ d ∈ lowercaseChar c, 128 ≤ d.toNat := by
  unfold lowercaseChar
  split
  · exact ⟨Char.ofNat 0x307, by simp, by decide⟩
  · split
    · rename_i run hrun
      have hcovers : run.covers c.toNat = true := by simpa using List.find?_some hrun
      refine ⟨_, List.mem_singleton_self _, ?_⟩
      rcases lowercaseRuns_outside run (List.mem_of_find?_eq_some hrun) with
        hascii | hsign | houtside
      · simp only [CaseRun.covers, Bool.and_eq_true, decide_eq_true_eq] at hcovers
        omega
      · simp only [CaseRun.covers, Bool.and_eq_true, decide_eq_true_eq] at hcovers
        omega
      · exact houtside.le_toNat hcovers
    · exact ⟨c, List.mem_singleton_self _, hc⟩

theorem mem_lowercaseChar_kelvin (hkelvin : c.toNat = 0x212A) : 'k' ∈ lowercaseChar c := by
  have hread : 'k' ∈ lowercaseChar (Char.ofNat 0x212A) := by decide +kernel
  rwa [← hkelvin, Char.ofNat_toNat] at hread

theorem toLower_of_not_ascii (hc : 128 ≤ c.toNat) : c.toLower = c := by
  apply dif_neg
  rintro ⟨_, hle⟩
  have hle' : c.toNat ≤ 90 := hle
  omega

theorem lowers_lowercase (s : String) : Lowers s.toList (lowercase s).toList := by
  rw [lowercase, String.toList_ofList]
  generalize s.toList = cs
  induction cs with
  | nil => exact .nil
  | cons c cs ih => exact .cons c ih

namespace Lowers

theorem eq_map_toLower (hlowers : Lowers cs lower) (hascii : ∀ c ∈ cs, c.toNat < 128) :
    lower = cs.map Char.toLower := by
  induction hlowers with
  | nil => rfl
  | cons c _ ih =>
      obtain ⟨hc, hrest⟩ := List.forall_mem_cons.mp hascii
      rw [lowercaseChar_of_ascii hc, ih hrest]
      rfl
  | finalSigma _ _ => exact absurd (hascii _ List.mem_cons_self) (by decide)

/-- Only ASCII characters and the kelvin sign have an ASCII lower case. -/
theorem ascii_of_ascii (hlowers : Lowers cs lower) (hascii : ∀ d ∈ lower, d.toNat < 128)
    (hk : 'k' ∉ lower) : ∀ c ∈ cs, c.toNat < 128 := by
  induction hlowers with
  | nil => nofun
  | @cons c cs lower _ ih =>
      obtain ⟨hfirst, hrest⟩ := List.forall_mem_append.mp hascii
      obtain ⟨hnotFirst, hnotRest⟩ := not_or.mp fun hor => hk (List.mem_append.mpr hor)
      refine List.forall_mem_cons.mpr ⟨?_, ih hrest hnotRest⟩
      refine Nat.lt_of_not_le fun hc => ?_
      have hkelvin : c.toNat ≠ 0x212A := fun heq => hnotFirst (mem_lowercaseChar_kelvin heq)
      obtain ⟨d, hd, hle⟩ := exists_mem_lowercaseChar hc hkelvin
      have hlt := hfirst d hd
      omega
  | finalSigma _ _ => exact absurd (hascii _ List.mem_cons_self) (by decide)

/-- A lower case is a given ASCII text in lower case, without k, exactly if the text itself is that
but for the case of ASCII letters. -/
theorem eq_iff {s t name : String} (hlowers : Lowers s.toList t.toList)
    (hname : ∀ d ∈ name.toList, d.toNat < 128 ∧ d ≠ 'k' ∧ d.toLower = d) :
    t = name ↔ SameButCase s name := by
  have hsame : name.toList.map Char.toLower = name.toList := by
    calc name.toList.map Char.toLower = name.toList.map id :=
          List.map_congr_left fun d hd => (hname d hd).2.2
      _ = name.toList := List.map_id _
  rw [SameButCase, hsame]
  constructor
  · rintro rfl
    have hascii := hlowers.ascii_of_ascii (fun d hd => (hname d hd).1)
      fun hk => (hname _ hk).2.1 rfl
    exact (hlowers.eq_map_toLower hascii).symm
  · intro heq
    have hascii : ∀ c ∈ s.toList, c.toNat < 128 := by
      intro c hc
      refine Nat.lt_of_not_le fun hnot => ?_
      have hmem : c.toLower ∈ name.toList := heq ▸ List.mem_map_of_mem hc
      rw [toLower_of_not_ascii hnot] at hmem
      exact Nat.not_lt.mpr hnot (hname c hmem).1
    rw [← String.toList_inj, hlowers.eq_map_toLower hascii, heq]

end Lowers

end PolicyRollout.Text
