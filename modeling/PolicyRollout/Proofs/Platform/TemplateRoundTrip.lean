import PolicyRollout.Platform.Template
import PolicyRollout.Proofs.Document.Denoted
/-!
Published templates, written and read again.  Whatever was left out of a template has a default,
and what is written for the template denotes it: absent members of a variable and empty metadata
are left out again, and defaults of variables and metadata of any form are kept as they are.
-/
namespace PolicyRollout

open Document (Denotes Fields Setting decodeValue)
open Json (Value)

section Integers

variable {s : Setting} {v : Value} {n : Int}

theorem Document.int64_bounds (hread : Document.int64 s (.ofValue v) = .ok n) :
    -maxInteger64 - 1 ≤ n ∧ n ≤ maxInteger64 := by
  have hinteger : ∀ m : Int, Document.int64 s (.scalar (.of (.integer m))) = .ok n →
      -maxInteger64 - 1 ≤ n ∧ n ≤ maxInteger64 := by
    intro m hread
    simp only [Document.int64, Document.integerIn, Setting.resolve, Document.Scalar.of] at hread
    split at hread
    · rename_i hrange
      obtain rfl := Except.ok.inj hread
      simpa using hrange
    · cases hread
  cases v with
  | number k =>
      cases k with
      | natural m => exact hinteger _ hread
      | negative m => exact hinteger _ hread
      | float x => cases hread
  | _ => cases hread

theorem Document.Denotes.int64 (hlow : -maxInteger64 - 1 ≤ n) (hhigh : n ≤ maxInteger64) :
    Denotes Document.int64 (.int n) n where
  wellFormed := by
    apply Value.WellFormed.number
    by_cases hn : n < 0
    · rw [if_pos hn]
      intro heq
      have hzero := Json.Number.negative.inj heq
      omega
    · rw [if_neg hn]
      nofun
  decodes := by
    intro s w _ heq _
    obtain rfl := Value.arranged_eq_number_iff.mp heq
    have hfound : Document.foundNumber (if n < 0 then .negative n.natAbs else .natural n.natAbs) =
        .integer n := by
      by_cases hn : n < 0
      · rw [if_pos hn, Document.foundNumber, Int.ofNat_natAbs_of_nonpos (Int.le_of_lt hn),
          Int.neg_neg]
      · rw [if_neg hn, Document.foundNumber, Int.natAbs_of_nonneg (Int.not_lt.mp hn)]
    simp [Document.int64, Document.integerIn, Setting.resolve, Document.Node.ofValue,
      Document.Scalar.of, hfound, hlow, hhigh]

end Integers

variable {s : Setting} {v : Value}

/-- A variable that was read is denoted by what is written for it. -/
theorem VariableSpec.denotes {spec : VariableSpec} (hread : decoder s (.ofValue v) = .ok spec) :
    Denotes decoder spec.toJson spec := by
  obtain ⟨row, hmade, rfl⟩ := Document.exists_made_of_record (by decide) hread
  simp only [fields, Fields.made_cons_iff] at hmade
  obtain ⟨-, -, -, -, hfallback, -⟩ := hmade
  obtain ⟨name, description, valueType, required, fallback, validation, sample, ⟨⟩⟩ := row
  have hkept : ∀ value ∈ fallback, Denotes Document.value value value ∧ value ≠ .null := by
    intro value hvalue
    obtain ⟨s, v, hnull, hread⟩ := hfallback.maybe value hvalue
    exact ⟨.value (Document.freeForm_settled s _ hread), Document.freeForm_ne_null hnull hread⟩
  have htext : ∀ {given : Option String}, ∀ t ∈ given,
      Denotes Document.text (.string t) t ∧ Value.string t ≠ .null :=
    fun t _ => ⟨.text t, nofun⟩
  have hdenotes : fields.Denotes
      (("name", .string name) :: ("description", .string description) ::
        ("type", .string valueType) :: ("required", .bool required) ::
        ((fallback.map fun value => ("default", value)).toList ++
        ((validation.map fun text => ("validation", .string text)).toList ++
        ((sample.map fun text => ("example", .string text)).toList ++ []))))
      (name, description, valueType, required, fallback, validation, sample, ()) :=
    .member (.text name) <| .member (.text description) <| .member (.text valueType) <|
      .member (.flag required) <| .maybe "default" hkept <| .maybe "validation" htext <|
      .maybe "example" htext .nil
  have hrecord : Denotes decoder (.object _) _ := hdenotes.record (by decide) _ _
  simpa [toJson] using hrecord

/-- The skeleton of a rule that was read is denoted by what is written for it. -/
theorem RuleSpec.denotes {rule : RuleSpec} (hread : decoder s (.ofValue v) = .ok rule) :
    Denotes decoder rule.toJson rule := by
  obtain ⟨row, hmade, rfl⟩ := Document.exists_made_of_record (by decide) hread
  simp only [fields, Fields.made_cons_iff] at hmade
  obtain ⟨-, -, hpriority, -⟩ := hmade
  obtain ⟨name, description, priority, direction, action, condition, log, ⟨⟩⟩ := row
  have hbounds : -maxInteger64 - 1 ≤ priority ∧ priority ≤ maxInteger64 := by
    rcases hpriority.withDefault with ⟨s, v, hread⟩ | rfl
    · exact Document.int64_bounds hread
    · decide
  have hdenotes : fields.Denotes
      [("name", .string name), ("description", .string description), ("priority", .int priority),
        ("direction", .string direction), ("action", .string action),
        ("match", .string condition), ("log", .bool log)]
      (name, description, priority, direction, action, condition, log, ()) :=
    .member (.text name) <| .member (.text description) <|
      .member (.int64 hbounds.1 hbounds.2) <| .member (.text direction) <|
      .member (.text action) <| .member (.text condition) <| .member (.flag log) .nil
  exact hdenotes.record (by decide) _ _

namespace TemplateDescriptor

variable {t : TemplateDescriptor}

theorem metadata_denotes {metadata : Json.Entries} (hkept : (Value.object metadata).Settled) :
    (Fields.cons (.withDefault "metadata" [] Document.members) .nil).Denotes
      (if metadata.isEmpty then [] else [("metadata", .object metadata)]) (metadata, ()) := by
  cases metadata with
  | nil => exact .omitted rfl .nil
  | cons e rest => exact .member (.members hkept) .nil

/-- A template that was read is denoted by what is written for it. -/
theorem denotes (hread : decoder s (.ofValue v) = .ok t) : Denotes decoder t.toJson t := by
  obtain ⟨row, hmade, rfl⟩ := Document.exists_made_of_record (by decide) hread
  simp only [fields, Fields.made_cons_iff] at hmade
  obtain ⟨-, -, -, -, -, hspecs, hrules, hmetadata, -⟩ := hmade
  obtain ⟨id, name, description, category, tags, specs, rules, metadata, ⟨⟩⟩ := row
  have hspecs' : ∀ spec ∈ specs, Denotes VariableSpec.decoder spec.toJson spec := by
    rcases hspecs.withDefault with ⟨s, v, hread⟩ | rfl
    · intro spec hspec
      obtain ⟨s, v, hread⟩ := Document.exists_of_mem_list hread spec hspec
      exact VariableSpec.denotes hread
    · simp
  have hrules' : ∀ rule ∈ rules, Denotes RuleSpec.decoder rule.toJson rule := by
    rcases hrules.withDefault with ⟨s, v, hread⟩ | rfl
    · intro rule hrule
      obtain ⟨s, v, hread⟩ := Document.exists_of_mem_list hread rule hrule
      exact RuleSpec.denotes hread
    · simp
  have hkept : (Value.object metadata).Settled := by
    rcases hmetadata.withDefault with ⟨s, v, hread⟩ | rfl
    · exact Document.members_settled hread
    · exact Value.settled_object .nil (by simp)
  have hdenotes : fields.Denotes
      (("id", .string id) :: ("name", .string name) :: ("description", .string description) ::
        ("category", .string category) :: ("tags", .strings tags) ::
        ("variables", .array (specs.map VariableSpec.toJson)) ::
        ("rules", .array (rules.map RuleSpec.toJson)) ::
        (if metadata.isEmpty then [] else [("metadata", .object metadata)]))
      (id, name, description, category, tags, specs, rules, metadata, ()) :=
    .member (.text id) <| .member (.text name) <| .member (.text description) <|
      .member (.text category) <| .member (.strings tags) <| .member (.list hspecs') <|
      .member (.list hrules') (metadata_denotes hkept)
  exact hdenotes.record (by decide) _ _

/-- A template that was read is read again, as it is, from what is written for it, in whatever
order the members of objects are written; and from the text of that, where all numbers are
integers and no more collections stand inside one another than a text may have.  Texts need these
conditions: a float is read from its digits in two rounded steps and may come out as the one beside
it (`Rereading.weighted_not_reread`), and no reader of texts takes deeper values. -/
theorem toJson_reread (hread : decoder s (.ofValue v) = .ok t) :
    decodeValue decoder t.toJson = .ok t ∧
    (∀ w : Value, w.WellFormed → w.arranged = t.toJson.arranged →
      decodeValue decoder w = .ok t) ∧
    (t.toJson.Exact → t.toJson.depth ≤ Json.maxDepth →
      Json.decode decoder (Text.symbolsOfText t.toJson.text) = .ok t) := by
  have hdenotes := denotes hread
  refine ⟨hdenotes.decodeValue, fun w hw heq => ?_, hdenotes.decode_text⟩
  exact hdenotes.decodes hw heq (by simp [Setting.Roomy])

namespace Rereading

/-- A template with a variable whose default is null, one whose default is an object, a rule that is
written as a list, and metadata. -/
def read : Value :=
  .object [("metadata", .object [("zone", .array [.null]), ("area", .number (.negative 7))]),
    ("variables", .array [.object [("default", .null), ("name", .string "ip")],
      .object [("name", .string "ports"), ("required", .bool true),
        ("default", .object [("to", .nat 90), ("from", .nat 80)])]]),
    ("rules", .array [.array [.string "ssh", .string "", .number (.negative 5)]]),
    ("id", .string "web")]

def kept : TemplateDescriptor where
  id := "web"
  name := ""
  description := ""
  category := ""
  tags := []
  variableSpecs := [⟨"ip", "", "", false, none, none, none⟩,
    ⟨"ports", "", "", true, some (.object [("from", .nat 80), ("to", .nat 90)]), none, none⟩]
  rules := [⟨"ssh", "", -5, "", "", "", false⟩]
  metadata := [("area", .number (.negative 7)), ("zone", .array [.null])]

theorem decodeValue_read : decodeValue decoder read = .ok kept := by
  rfl

theorem reread_kept :
    decodeValue decoder kept.toJson = .ok kept ∧
    (∀ w : Value, w.WellFormed → w.arranged = kept.toJson.arranged →
      decodeValue decoder w = .ok kept) ∧
    (kept.toJson.Exact → kept.toJson.depth ≤ Json.maxDepth →
      Json.decode decoder (Text.symbolsOfText kept.toJson.text) = .ok kept) :=
  toJson_reread decodeValue_read

/-- A template with a weight near 1e-23 among its metadata. -/
def weighted : TemplateDescriptor where
  id := "web"
  name := ""
  description := ""
  category := ""
  tags := []
  variableSpecs := []
  rules := []
  metadata := [("weight", .number (.float ⟨false, 6805647338418769, -129⟩))]

def weight? (result : Except Document.Complaint TemplateDescriptor) : Option Nat :=
  match result with
  | .ok ⟨_, _, _, _, _, _, _, [(_, .number (.float x))]⟩ => some x.mantissa
  | _ => none

/-- The value of the template is read again, but not its text. -/
theorem weighted_not_reread :
    decodeValue decoder weighted.toJson = .ok weighted ∧
      Json.decode decoder (Text.symbolsOfText weighted.toJson.text) ≠ .ok weighted := by
  refine ⟨rfl, fun heq => ?_⟩
  have hread : weight? (Json.decode decoder (Text.symbolsOfText weighted.toJson.text)) =
      some 6805647338418770 := by decide +kernel
  rw [heq] at hread
  exact absurd hread (by decide)

end Rereading

end TemplateDescriptor

end PolicyRollout
