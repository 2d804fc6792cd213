import PolicyRollout.Proofs.Text.Lowercase
import PolicyRollout.Proofs.Topology.RoundTrip
/-!
The names of the engines.  A text names a known engine exactly if it is that engine's name but for
the case of ASCII letters: none of the four names has a k, so no other character comes into them
by its lower case.  Any other text is the name of an engine of its own.
-/
namespace PolicyRollout.Engine

open Text (SameButCase Lowers)

variable {e : Engine} {s t : String}

theorem name_lower (he : e.isKnown = true) :
    ∀ d ∈ e.name.toList, d.toNat < 128 ∧ d ≠ 'k' ∧ d.toLower = d := by
  cases e with
  | mySql => simp [name]
  | postgreSql => simp [name]
  | mongoDb => simp [name]
  | redis => simp [name]
  | other name => cases he

theorem parse_eq_iff_lowercase (he : e.isKnown = true) :
    parse s = e ↔ Text.lowercase s = e.name := by
  unfold parse
  cases e with
  | mySql => grind [name]
  | postgreSql => grind [name]
  | mongoDb => grind [name]
  | redis => grind [name]
  | other name => cases he

theorem parse_eq_other (hs : (parse s).isKnown = false) : parse s = .other s := by
  unfold parse at *
  grind [isKnown]

theorem parse_eq_iff (he : e.isKnown = true) : parse s = e ↔ SameButCase s e.name := by
  rw [parse_eq_iff_lowercase he]
  exact (Text.lowers_lowercase s).eq_iff (name_lower he)

/-- Two texts name one engine if they are one text or both name the same known engine. -/
theorem parse_inj_iff : parse s = parse t ↔
    s = t ∨ ∃ e : Engine, e.isKnown = true ∧ SameButCase s e.name ∧ SameButCase t e.name := by
  constructor
  · intro hparse
    cases hs : (parse s).isKnown with
    | false =>
        have ht : (parse t).isKnown = false := hparse ▸ hs
        rw [parse_eq_other hs, parse_eq_other ht] at hparse
        exact .inl (Engine.other.inj hparse)
    | true => exact .inr ⟨parse s, hs, (parse_eq_iff hs).mp rfl, (parse_eq_iff hs).mp hparse.symm⟩
  · rintro (rfl | ⟨e, he, hs, ht⟩)
    · rfl
    · rw [(parse_eq_iff he).mpr hs, (parse_eq_iff he).mpr ht]

/-- An engine is read back from its name, with the port it had.  A text names a known engine exactly
if it differs from that engine's name in the case of ASCII letters only, whichever form the capital
sigmas take in its lower case; any other text is kept as it is.  Two texts name the same engine
exactly if they are equal or name the same known one. -/
theorem named_up_to_case (s : String) :
    (parse (parse s).name = parse s ∧
      Document.decodeValue decoder (.string (parse s).name) = .ok (parse s)) ∧
    (∀ e : Engine, e.isKnown = true →
      (parse s = e ↔ SameButCase s e.name) ∧
      ∀ lower : String, Lowers s.toList lower.toList → (lower = e.name ↔ SameButCase s e.name)) ∧
    ((∀ e : Engine, e.isKnown = true → ¬ SameButCase s e.name) →
      parse s = .other s ∧ (parse s).name = s) ∧
    (∀ given : Option Nat,
      resolvePort (parse (parse s).name) given = resolvePort (parse s) given) ∧
    (∀ (e : Engine) (port : Nat),
      resolvePort (parse e.name) (some port) = resolvePort e (some port)) ∧
    ∀ t : String, parse s = parse t ↔
      s = t ∨ ∃ e : Engine, e.isKnown = true ∧ SameButCase s e.name ∧ SameButCase t e.name := by
  refine ⟨⟨parse_name s, ?_⟩, ?_, ?_, ?_, fun e port => rfl, fun t => parse_inj_iff⟩
  · exact (Engine.conveys 0 s).decodes (by simp [Document.Setting.Roomy])
  · exact fun e he => ⟨parse_eq_iff he, fun lower hlowers => hlowers.eq_iff (name_lower he)⟩
  · intro hnone
    have hunknown : (parse s).isKnown = false := by
      rw [← Bool.not_eq_true]
      exact fun hknown => hnone _ hknown ((parse_eq_iff hknown).mp rfl)
    have hother := parse_eq_other hunknown
    exact ⟨hother, by rw [hother, name]⟩
  · intro given
    rw [parse_name]

example : parse "PostgreSQL" = .postgreSql ∧ parse "Maria DB" = .other "Maria DB" := by decide

end PolicyRollout.Engine
