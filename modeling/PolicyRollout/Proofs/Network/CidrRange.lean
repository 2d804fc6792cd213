import PolicyRollout.Network.Cidr
import PolicyRollout.Proofs.Document.Conveyed
import PolicyRollout.Proofs.Document.Origins
/-!
Prefix lengths.  A network fits its family when its prefix is no longer than an address is.  One
made from its parts or read from its notation does; one decoded from a document has a prefix
length of eight bits, and that is all: each address comes with each of these.
-/
namespace PolicyRollout

namespace Document

theorem naturalUpTo_le {high n : Nat} {expected : String} {s : Setting} {node : Node}
    (hread : naturalUpTo high expected s node = .ok n) : n ≤ high := by
  obtain ⟨i, hinteger, heq⟩ := bind_eq_ok_iff.mp hread
  cases heq
  unfold integerIn at hinteger
  generalize s.resolve node = node at hinteger
  cases node with
  | scalar sc =>
      cases hfound : sc.integer? with
      | none => cases hbroken : sc.broken <;>
          simp [hfound, unexpected, hbroken, Setting.complain] at hinteger
      | some found =>
          by_cases hrange : (0 : Int) ≤ found ∧ found ≤ high
          · simp only [hfound, hrange, decide_true, Bool.and_self, if_true] at hinteger
            cases hinteger
            exact Int.toNat_le.mpr hrange.2
          · simp [hfound, hrange, Setting.complain] at hinteger
  | _ => simp [unexpected, Setting.complain] at hinteger

end Document

namespace Network.Cidr

open Document (Conveys Setting Node)
open Json (Value)

/-- The prefix of a network is no longer than its address. -/
def InRange (c : Cidr) : Prop :=
  c.prefixLength ≤ maxPrefixLength c.address

instance (c : Cidr) : Decidable c.InRange :=
  inferInstanceAs (Decidable (c.prefixLength ≤ maxPrefixLength c.address))

theorem ofParts_eq_ok_iff {address : Address} {n : Nat} {c : Cidr} :
    ofParts address n = .ok c ↔ c = ⟨address, n⟩ ∧ c.InRange := by
  unfold ofParts
  by_cases hfits : n ≤ maxPrefixLength address
  · rw [if_pos hfits]
    constructor
    · rintro ⟨rfl⟩
      exact ⟨rfl, hfits⟩
    · rintro ⟨rfl, _⟩
      rfl
  · rw [if_neg hfits]
    constructor
    · intro h
      cases h
    · rintro ⟨rfl, hrange⟩
      exact absurd hrange hfits

/-- Reading a text ends in the check of its parts. -/
theorem exists_ofParts_of_parse {text : String} {c : Cidr} (hparse : parse text = .ok c) :
    ∃ address n, ofParts address n = .ok c := by
  unfold parse at hparse
  cases hsplit : splitSlash text.toList with
  | none => simp [hsplit] at hparse
  | some parts =>
      obtain ⟨before, after⟩ := parts
      simp only [hsplit] at hparse
      cases haddress : Address.ofChars? before with
      | none => simp [haddress] at hparse
      | some address =>
          simp only [haddress] at hparse
          cases hlength : Text.unsigned? 255 after with
          | none => simp [hlength] at hparse
          | some n =>
              simp only [hlength] at hparse
              exact ⟨address, n, hparse⟩

theorem inRange_of_parse {text : String} {c : Cidr} (hparse : parse text = .ok c) : c.InRange := by
  obtain ⟨address, n, hparts⟩ := exists_ofParts_of_parse hparse
  exact (ofParts_eq_ok_iff.mp hparts).2

theorem prefixLength_le_of_decoder {s : Setting} {node : Node} {c : Cidr}
    (hdecode : decoder s node = .ok c) : c.prefixLength ≤ 255 := by
  obtain ⟨⟨address, n, _⟩, hrow, rfl⟩ := Document.exists_canBe_of_record hdecode
  cases hrow with
  | cons _ hrest =>
      cases hrest with
      | cons hlength _ =>
          rcases hlength with ⟨_, _, hread⟩ | hdefault | hdefault
          · exact Document.naturalUpTo_le hread
          · cases hdefault
          · cases hdefault

/-- A network as a document has it, its address in whatever notation. -/
def parts (text : String) (n : Nat) : Value :=
  .object [("address", .string text), ("prefix_length", .nat n)]

theorem conveys_parts {text : String} {address : Address} {n : Nat}
    (haddress : Address.parse? text = some address) (hn : n ≤ 255) :
    Conveys decoder 1 (parts text n) ⟨address, n⟩ := by
  have hread : Conveys addressDecoder 0 (.string text) address := by
    refine ⟨.string text, fun {s} _ => ?_⟩
    have htext : Document.textAs "IP address" s (.ofValue (.string text)) = .ok text := rfl
    simp only [addressDecoder, htext, bind, Except.bind, haddress]
    rfl
  have hlength : Conveys Document.nat8 0 (.nat n) n := .naturalUpTo 0 hn (by decide) "u8"
  have hholds : fields.Holds 0 [("address", .string text), ("prefix_length", .nat n)]
      (address, n, ()) := .member hread (.member hlength .nil)
  exact hholds.conveys (by decide) "struct Cidr" _

/-- A network is in range exactly if its parts are accepted. -/
theorem inRange_iff {c : Cidr} : c.InRange ↔ ofParts c.address c.prefixLength = .ok c := by
  rw [ofParts_eq_ok_iff]
  exact (and_iff_right rfl).symm

/-- Which networks there are.  A text that is read and parts that are accepted give a network in
range, and the parts of every network in range are accepted.  A document gives a network whose
prefix length has eight bits, in range exactly if its parts would have been accepted; and each
address that can be written comes with each of these lengths, those out of range included. -/
theorem inRange_by_origin (text : String) (address : Address) (n : Nat) (s : Setting)
    (node : Node) :
    (∀ c, parse text = .ok c → c.InRange) ∧
    (∀ c, ofParts address n = .ok c ↔ c = ⟨address, n⟩ ∧ c.InRange) ∧
    (∀ c, decoder s node = .ok c → c.prefixLength ≤ 255 ∧
      (c.InRange ↔ ofParts c.address c.prefixLength = .ok c)) ∧
    (Address.parse? text = some address → n ≤ 255 →
      Json.decode decoder (Text.symbolsOfText (parts text n).text) = .ok ⟨address, n⟩) := by
  refine ⟨fun c => inRange_of_parse, fun c => ofParts_eq_ok_iff, fun c hdecode => ?_, ?_⟩
  · exact ⟨prefixLength_le_of_decoder hdecode, inRange_iff⟩
  · intro haddress hn
    exact (conveys_parts haddress hn).decode_text (by decide)

/-- Ninety-nine leading bits of an address that has thirty-two. -/
def overlong : Cidr := ⟨.v4 ⟨10, 0, 0, 0⟩, 99⟩

/-- It is decoded, and its parts are refused. -/
theorem decoded_out_of_range :
    Json.decode decoder
        (Text.symbolsOfText "\x7b\"address\":\"10.0.0.0\",\"prefix_length\":99\x7d") =
      .ok overlong ∧
    ¬ overlong.InRange ∧
    ofParts overlong.address overlong.prefixLength = .error (.invalidPrefixLength 99) := by
  have htext : (parts "10.0.0.0" 99).text =
      "\x7b\"address\":\"10.0.0.0\",\"prefix_length\":99\x7d" := by decide +kernel
  rw [← htext]
  exact ⟨(conveys_parts rfl (by decide)).decode_text (by decide), by decide, rfl⟩

end Network.Cidr

end PolicyRollout
