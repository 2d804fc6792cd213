import PolicyRollout.Proofs.Network.Characters
/-!
Texts that pass for hosts, networks and lists of sources.  A host may have blanks around it that
an address may not have: an address is a host that trimming leaves as it is.  No host is empty
or holds a comma, whatever blanks surround it.
-/
namespace PolicyRollout

namespace Text

variable {c : Char} {cs : List Char}

theorem trimChars_eq_self (hcs : ∀ c ∈ cs, isBlank c = false) : trimChars cs = cs := by
  have hkeep : ∀ l : List Char, (∀ c ∈ l, isBlank c = false) → l.dropWhile isBlank = l := by
    intro l hl
    cases l with
    | nil => rfl
    | cons c rest => simp [hl]
  rw [trimChars, hkeep cs hcs, hkeep cs.reverse (by simpa using hcs), List.reverse_reverse]

theorem mem_dropWhile_or_isBlank (hc : c ∈ cs) : c ∈ cs.dropWhile isBlank ∨ isBlank c = true := by
  rw [← List.takeWhile_append_dropWhile (p := isBlank) (l := cs), List.mem_append] at hc
  rcases hc with htaken | hkept
  · exact Or.inr (List.mem_takeWhile_imp htaken)
  · exact Or.inl hkept

/-- Only blanks are lost by trimming. -/
theorem mem_trimChars_or_isBlank (hc : c ∈ cs) : c ∈ trimChars cs ∨ isBlank c = true := by
  rcases mem_dropWhile_or_isBlank hc with hfront | hblank
  · rcases mem_dropWhile_or_isBlank (List.mem_reverse.mpr hfront) with hback | hblank
    · exact Or.inl (List.mem_reverse.mpr hback)
    · exact Or.inr hblank
  · exact Or.inr hblank

end Text

namespace Network

/-- A check lets a value through. -/
def Accepts {α β : Type} (check : α → Except NetworkError β) (v : α) : Prop :=
  ∃ result, check v = .ok result

/-- A text that passes for a host address. -/
def IsHost (s : String) : Prop := Accepts parseHost s

def IsNetwork (s : String) : Prop := Accepts Cidr.parse s

def IsSourceList (s : String) : Prop := Accepts checkSourceList s

/-- A text that is an address as it stands. -/
def IsAddress (s : String) : Prop := ∃ ip, Address.parse? s = some ip

theorem accepts_checkPort_iff {port : Nat} : Accepts checkPort port ↔ port ≠ 0 := by
  by_cases hport : port = 0
  · simp [Accepts, checkPort, hport]
  · simp [Accepts, checkPort, hport]

section Hosts

variable {s : String}

theorem isHost_iff : IsHost s ↔ IsAddress (Text.trim s) := by
  cases hparse : Address.parse? (Text.trim s) with
  | none => simp [IsHost, Accepts, IsAddress, parseHost, hparse]
  | some ip => simp [IsHost, Accepts, IsAddress, parseHost, hparse]

theorem IsAddress.trim_eq (h : IsAddress s) : Text.trim s = s := by
  obtain ⟨ip, hip⟩ := h
  have hblank : ∀ c ∈ s.toList, Text.isBlank c = false := fun c hc =>
    (Address.isAddressChar_of_ofChars? hip c hc).not_blank
  rw [Text.trim, Text.trimChars_eq_self hblank, String.ofList_toList]

/-- Addresses are the hosts without blanks around them. -/
theorem isAddress_iff : IsAddress s ↔ IsHost s ∧ Text.trim s = s := by
  constructor
  · intro h
    exact ⟨isHost_iff.mpr (h.trim_eq.symm ▸ h), h.trim_eq⟩
  · rintro ⟨hhost, htrim⟩
    exact htrim ▸ isHost_iff.mp hhost

theorem IsHost.ne_empty (h : IsHost s) : s ≠ "" := by
  have hempty : parseHost "" = .error (.invalidAddress "") := rfl
  rintro rfl
  obtain ⟨ip, hip⟩ := h
  rw [hempty] at hip
  cases hip

/-- Neither an address nor a blank is a comma. -/
theorem IsHost.comma_not_mem (h : IsHost s) : ',' ∉ s.toList := by
  intro hcomma
  obtain ⟨ip, hip⟩ := isHost_iff.mp h
  rcases Text.mem_trimChars_or_isBlank hcomma with hkept | hblank
  · have hkept' : ',' ∈ (Text.trim s).toList := by rwa [Text.trim, String.toList_ofList]
    exact absurd rfl (Address.isAddressChar_of_ofChars? hip ',' hkept').ne_comma
  · exact absurd hblank (by decide)

end Hosts

end Network

end PolicyRollout
