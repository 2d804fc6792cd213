import PolicyRollout.Proofs.Network.AddressText
import PolicyRollout.Proofs.Network.CidrRange
/-!
Networks and their texts.  A network is read from an address, a slash and decimal digits that
spell a prefix length in range; one plus sign may stand before the digits.  Its own text is of
this form and has no sign, so it is read as the same network and tells it from every other.
-/
namespace PolicyRollout.Network.Cidr

variable {s : String} {c : Cidr}

theorem splitSlash_eq_some_iff {cs before after : List Char} :
    splitSlash cs = some (before, after) ↔ cs = before ++ '/' :: after ∧ '/' ∉ before := by
  induction cs generalizing before with
  | nil => simp [splitSlash]
  | cons c rest ih =>
      by_cases hslash : c = '/'
      · subst hslash
        rw [splitSlash, if_pos rfl, Option.some_inj, Prod.mk.injEq]
        constructor
        · rintro ⟨rfl, rfl⟩
          exact ⟨rfl, by simp⟩
        · rintro ⟨heq, hnone⟩
          rcases List.cons_eq_append_iff.mp heq with ⟨rfl, hafter⟩ | ⟨more, rfl, _⟩
          · exact ⟨rfl, (List.cons.inj hafter).2.symm⟩
          · exact absurd List.mem_cons_self hnone
      · rw [splitSlash, if_neg hslash, Option.map_eq_some_iff]
        constructor
        · rintro ⟨⟨more, _⟩, hsplit, heq⟩
          obtain ⟨rfl, rfl⟩ := Prod.mk.inj heq
          obtain ⟨rfl, hnone⟩ := ih.mp hsplit
          exact ⟨rfl, by simpa [Ne.symm hslash] using hnone⟩
        · rintro ⟨heq, hnone⟩
          rcases List.cons_eq_append_iff.mp heq with ⟨_, hafter⟩ | ⟨more, rfl, hrest⟩
          · exact absurd (List.cons.inj hafter).1.symm hslash
          · have hmore : '/' ∉ more := fun hmem => hnone (List.mem_cons_of_mem _ hmem)
            exact ⟨(more, after), ih.mpr ⟨hrest, hmore⟩, rfl⟩

/-- A text made up of an address, a slash, a sign or none, and decimal digits that spell a prefix
length in range. -/
def WrittenWith (sign : List Char) (c : Cidr) (s : String) : Prop :=
  ∃ address digits, s.toList = address ++ '/' :: (sign ++ digits) ∧
    Address.ofChars? address = some c.address ∧ Text.Spells digits c.prefixLength ∧ c.InRange

/-- A text in CIDR notation. -/
def Written (c : Cidr) (s : String) : Prop := c.WrittenWith [] s

/-- A text in CIDR notation but for a plus sign before the prefix length. -/
def Signed (c : Cidr) (s : String) : Prop := c.WrittenWith ['+'] s

/-- A prefix length in range has eight bits. -/
theorem InRange.le_255 (hrange : c.InRange) : c.prefixLength ≤ 255 := by
  have hmax : maxPrefixLength c.address ≤ 255 := by
    cases c.address with
    | v4 ip => exact (by decide : 32 ≤ 255)
    | v6 ip => exact (by decide : 128 ≤ 255)
  exact Nat.le_trans hrange hmax

/-- A text is read by its parts. -/
theorem parse_eq_ok_iff_parts : parse s = .ok c ↔
    ∃ before after, splitSlash s.toList = some (before, after) ∧
      Address.ofChars? before = some c.address ∧
      Text.unsigned? 255 after = some c.prefixLength ∧ c.InRange := by
  unfold parse
  constructor
  · intro hparse
    split at hparse
    · cases hparse
    · rename_i before after hsplit
      split at hparse
      · cases hparse
      · rename_i address haddress
        split at hparse
        · cases hparse
        · rename_i n hlength
          obtain ⟨rfl, hrange⟩ := ofParts_eq_ok_iff.mp hparse
          exact ⟨before, after, hsplit, haddress, hlength, hrange⟩
  · rintro ⟨before, after, hsplit, haddress, hlength, hrange⟩
    simp only [hsplit, haddress, hlength]
    exact ofParts_eq_ok_iff.mpr ⟨rfl, hrange⟩

/-- An address holds no slash, so the first slash is the one behind it. -/
theorem slash_not_mem_address {address : List Char} {ip : Address}
    (haddress : Address.ofChars? address = some ip) : '/' ∉ address := fun hmem =>
  (Address.isAddressChar_of_ofChars? haddress '/' hmem).ne_slash rfl

/-- Networks are read from texts in CIDR notation, with or without a plus sign. -/
theorem parse_eq_ok_iff : parse s = .ok c ↔ c.Written s ∨ c.Signed s := by
  rw [parse_eq_ok_iff_parts]
  constructor
  · rintro ⟨before, after, hsplit, haddress, hlength, hrange⟩
    obtain ⟨htext, _⟩ := splitSlash_eq_some_iff.mp hsplit
    obtain ⟨⟨digits, rfl | rfl, hspells⟩, _⟩ := Text.unsigned?_eq_some_iff.mp hlength
    · exact Or.inl ⟨before, _, htext, haddress, hspells, hrange⟩
    · exact Or.inr ⟨before, digits, htext, haddress, hspells, hrange⟩
  · rintro (⟨before, digits, htext, haddress, hspells, hrange⟩ |
      ⟨before, digits, htext, haddress, hspells, hrange⟩)
    · have hsplit := splitSlash_eq_some_iff.mpr ⟨htext, slash_not_mem_address haddress⟩
      exact ⟨before, _, hsplit, haddress, Text.unsigned?_eq_some_iff.mpr
        ⟨⟨digits, Or.inl rfl, hspells⟩, hrange.le_255⟩, hrange⟩
    · have hsplit := splitSlash_eq_some_iff.mpr ⟨htext, slash_not_mem_address haddress⟩
      exact ⟨before, _, hsplit, haddress, Text.unsigned?_eq_some_iff.mpr
        ⟨⟨digits, Or.inr rfl, hspells⟩, hrange.le_255⟩, hrange⟩

section Characters

variable {sign : List Char} (h : c.WrittenWith sign s)

include h

theorem WrittenWith.mem_cases {x : Char} (hx : x ∈ s.toList) :
    IsAddressChar x ∨ x = '/' ∨ x ∈ sign := by
  obtain ⟨address, digits, htext, haddress, hspells, _⟩ := h
  rw [htext, List.mem_append, List.mem_cons, List.mem_append] at hx
  rcases hx with hip | rfl | hsign | hdigit
  · exact Or.inl (Address.isAddressChar_of_ofChars? haddress x hip)
  · exact Or.inr (Or.inl rfl)
  · exact Or.inr (Or.inr hsign)
  · have hvalue := Text.digit?_ten_eq_some_iff.mpr ⟨hspells.isDigit x hdigit, rfl⟩
    exact Or.inl (isAddressChar_of_digit (by decide) hvalue)

/-- Neither the address nor what follows the slash holds another one. -/
theorem WrittenWith.count_slash (hsign : '/' ∉ sign) : s.toList.count '/' = 1 := by
  obtain ⟨address, digits, htext, haddress, hspells, _⟩ := h
  have hbefore : address.count '/' = 0 := List.count_eq_zero.mpr (slash_not_mem_address haddress)
  have hafter : (sign ++ digits).count '/' = 0 := by
    rw [List.count_append, List.count_eq_zero.mpr hsign,
      List.count_eq_zero.mpr (hspells.not_mem (by decide))]
  rw [htext, List.count_append, List.count_cons_self, hbefore, hafter]

end Characters

theorem Written.plus_not_mem (h : c.Written s) : '+' ∉ s.toList := by
  intro hplus
  rcases h.mem_cases hplus with hchar | hslash | hnone
  · exact hchar.ne_sign.1 rfl
  · exact absurd hslash (by decide)
  · cases hnone

theorem Signed.plus_mem (h : c.Signed s) : '+' ∈ s.toList := by
  obtain ⟨address, digits, htext, _⟩ := h
  rw [htext]
  exact List.mem_append_right _ (List.mem_cons_of_mem _ List.mem_cons_self)

/-- Of the texts that are read, those without a plus sign are in CIDR notation. -/
theorem written_iff_plus_not_mem (hread : parse s = .ok c) : c.Written s ↔ '+' ∉ s.toList := by
  rcases parse_eq_ok_iff.mp hread with hwritten | hsigned
  · exact iff_of_true hwritten hwritten.plus_not_mem
  · exact iff_of_false (fun h => h.plus_not_mem hsigned.plus_mem) (not_not_intro hsigned.plus_mem)

theorem count_slash_of_parse (hread : parse s = .ok c) : s.toList.count '/' = 1 := by
  rcases parse_eq_ok_iff.mp hread with hwritten | hsigned
  · exact hwritten.count_slash (by decide)
  · exact hsigned.count_slash (by decide)

/-- No text that is read holds a minus sign or a blank. -/
theorem clean_of_parse (hread : parse s = .ok c) {x : Char} (hx : x ∈ s.toList) :
    x ≠ '-' ∧ Text.isBlank x = false := by
  have hcases : IsAddressChar x ∨ x = '/' ∨ x = '+' := by
    rcases parse_eq_ok_iff.mp hread with hwritten | hsigned
    · rcases hwritten.mem_cases hx with hchar | hslash | hnone
      · exact Or.inl hchar
      · exact Or.inr (Or.inl hslash)
      · cases hnone
    · simpa using hsigned.mem_cases hx
  rcases hcases with hchar | rfl | rfl
  · exact ⟨hchar.ne_sign.2, hchar.not_blank⟩
  · decide
  · decide

/-- The text of a network in range is in CIDR notation. -/
theorem InRange.written_text (hrange : c.InRange) : c.Written c.text := by
  refine ⟨c.address.render, Text.decimal c.prefixLength, ?_, c.address.ofChars?_render,
    Text.spells_decimal c.prefixLength, hrange⟩
  simp [text, Address.text, Text.decimalText]

theorem parse_text (hrange : c.InRange) : parse c.text = .ok c :=
  parse_eq_ok_iff.mpr (Or.inl hrange.written_text)

/-- The text of a network is read as that network, be it made from its parts or read from another
text; and texts are read as the same network exactly if the texts of their networks are equal. -/
theorem text_canonical (address : Address) (n : Nat) (s t : String) :
    (∀ c, ofParts address n = .ok c → parse c.text = .ok c) ∧
    (∀ c, parse s = .ok c → parse c.text = .ok c) ∧
    (∀ c d, parse s = .ok c → parse t = .ok d → (c = d ↔ c.text = d.text)) := by
  refine ⟨fun c hparts => ?_, fun c hread => parse_text (inRange_of_parse hread), ?_⟩
  · exact parse_text (ofParts_eq_ok_iff.mp hparts).2
  · intro c d hc hd
    refine ⟨congrArg text, fun htext => ?_⟩
    have hboth : Except.ok c = (.ok d : Except NetworkError Cidr) :=
      calc .ok c = parse c.text := (parse_text (inRange_of_parse hc)).symm
        _ = parse d.text := by rw [htext]
        _ = .ok d := parse_text (inRange_of_parse hd)
    exact Except.ok.inj hboth

/-- A network with a run of zeros that may be left out. -/
def spelledTwice : Cidr := ⟨.v6 ⟨[0x2001, 0xdb8, 0, 0, 0, 0, 0, 1], rfl⟩, 48⟩

/-- Two of its spellings, neither of them its own text. -/
theorem text_canonical_spelledTwice :
    parse "2001:DB8:0:0::1/048" = .ok spelledTwice ∧
    parse "2001:0db8::0:1/48" = .ok spelledTwice ∧
    spelledTwice.text = "2001:db8::1/48" ∧
    parse "2001:db8::1/48" = .ok spelledTwice := by
  have hfirst : parse "2001:DB8:0:0::1/048" = .ok spelledTwice := rfl
  have hsecond : parse "2001:0db8::0:1/48" = .ok spelledTwice := rfl
  have htext : spelledTwice.text = "2001:db8::1/48" := rfl
  obtain ⟨_, hcanonical, _⟩ :=
    text_canonical spelledTwice.address 48 "2001:DB8:0:0::1/048" "2001:0db8::0:1/48"
  exact ⟨hfirst, hsecond, htext, htext ▸ hcanonical spelledTwice hfirst⟩

end PolicyRollout.Network.Cidr
