import PolicyRollout.Proofs.Document.Origins
/-!
What decoders assure.  A decoder assures a property if all that it reads has it.  Items of a list
and values that may be absent have what their decoder assures, and a record has what its fields
assure together.
-/
namespace PolicyRollout.Document

/-- All that a decoder reads has a property. -/
def Assures {α : Type} (decode : Decoder α) (P : α → Prop) : Prop :=
  ∀ s node a, decode s node = .ok a → P a

variable {α : Type} {decode : Decoder α} {P : α → Prop} {s : Setting} {node : Node}

theorem Assures.optional (hassures : Assures decode P) :
    Assures (optional decode) fun found => ∀ a ∈ found, P a := by
  intro s node found hread
  have hpresent : ∀ {node : Node}, some <$> decode s node = .ok found → ∀ a ∈ found, P a := by
    intro node hread
    cases hfound : decode s node with
    | error complaint =>
        rw [hfound] at hread
        contradiction
    | ok v =>
        rw [hfound] at hread
        obtain rfl := Except.ok.inj hread
        rintro _ ⟨rfl⟩
        exact hassures s node _ hfound
  unfold Document.optional at hread
  simp only at hread
  split at hread
  · split at hread
    · obtain rfl := Except.ok.inj hread
      simp
    · exact hpresent hread
    · contradiction
  · exact hpresent hread

theorem Assures.decodeItems (hassures : Assures decode P) {index : Nat} {items : List Node}
    {found : List α} (hread : decodeItems decode s index items = .ok found) : ∀ a ∈ found, P a := by
  induction items generalizing index found with
  | nil =>
      obtain rfl := Except.ok.inj hread
      simp
  | cons item items ih =>
      obtain ⟨first, hfirst, hread⟩ := bind_eq_ok_iff.mp hread
      obtain ⟨rest, hrest, hread⟩ := bind_eq_ok_iff.mp hread
      obtain rfl := Except.ok.inj hread
      exact List.forall_mem_cons.mpr ⟨hassures _ _ _ hfirst, ih hrest⟩

theorem Assures.list (hassures : Assures decode P) :
    Assures (list decode) fun found => ∀ a ∈ found, P a := by
  intro s node found hread
  unfold Document.list at hread
  generalize s.resolve node = node at hread
  cases node with
  | sequence items stop =>
      obtain ⟨inner, _, hread⟩ := bind_eq_ok_iff.mp hread
      obtain ⟨values, hvalues, hread⟩ := bind_eq_ok_iff.mp hread
      cases stop with
      | some b => contradiction
      | none =>
          obtain rfl := Except.ok.inj hread
          exact hassures.decodeItems (Setting.locate_eq_ok_iff.mp hvalues)
  | scalar sc =>
      by_cases hempty : sc.isEmpty
      · simp only [hempty, if_true] at hread
        obtain rfl := Except.ok.inj hread
        simp
      · cases hbroken : sc.broken <;>
          simp [hempty, unexpected, hbroken, Setting.complain] at hread
  | _ => simp [unexpected, Setting.complain] at hread

theorem Assures.required (hassures : Assures decode P) {name : String} {a : α}
    (hcan : (Field.required name decode).CanBe a) : P a := by
  rcases hcan with ⟨s, node, hread⟩ | hdefault | hdefault
  · exact hassures s node a hread
  · contradiction
  · contradiction

theorem Assures.maybe (hassures : Assures decode P) {name : String} {found : Option α}
    (hcan : (Field.maybe name decode).CanBe found) : ∀ a ∈ found, P a := by
  rcases hcan with ⟨s, node, hread⟩ | hdefault | hdefault
  · exact hassures.optional s node found hread
  · obtain rfl : none = found := Option.some_inj.mp hdefault
    simp
  · obtain rfl : none = found := Option.some_inj.mp hdefault
    simp

theorem Fields.canBe_cons_iff {types : List Type} {field : Field α} {rest : Fields types}
    {row : Row (α :: types)} :
    (Fields.cons field rest).CanBe row ↔
      field.CanBe (Prod.fst row) ∧ rest.CanBe (Prod.snd row) := by
  constructor
  · intro hcan
    cases hcan with
    | cons hv hrest => exact ⟨hv, hrest⟩
  · rintro ⟨hv, hrest⟩
    exact .cons hv hrest

/-- A record has a property if it is built so whatever values its fields can have. -/
theorem assures_record {types : List Type} {fields : Fields types} {title : String}
    {build : Row types → α} (hbuild : ∀ row, fields.CanBe row → P (build row)) :
    Assures (record title fields build) P := by
  intro s node a hread
  obtain ⟨row, hcan, rfl⟩ := exists_canBe_of_record hread
  exact hbuild row hcan

/-- A document is read by its decoder. -/
theorem Assures.source (hassures : Assures decode P) {dialect : Dialect} {depth : Option Nat}
    {source : Source} {a : α} (hread : source.decode dialect depth decode = .ok a) : P a := by
  unfold Source.decode at hread
  simp only at hread
  split at hread
  · contradiction
  · rename_i v hroot
    split at hread
    · obtain rfl := Except.ok.inj hread
      exact hassures _ _ _ hroot
    · contradiction

end PolicyRollout.Document
