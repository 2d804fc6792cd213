import PolicyRollout.Platform.Creation
import PolicyRollout.Proofs.Document.Kept
/-!
Answers to instantiations, read and written again.  The members that are known go to
the fields and only there, all others are kept, and what is written is the object that
was read, but for the order of members, for absent members written as null, and for
the rules of an instance, which are always written.
-/
namespace PolicyRollout

open Json (Entries Value arrangedEntries)
open Document (Decoder Field Fields Setting decodeValue)

namespace Document

/-- A field that may be absent takes nothing, or null, or a value it decodes. -/
theorem Field.Taken.maybe {α : Type} {s : Setting} {name : String} {decode : Decoder α}
    {taken : Entries} {cell : Option (Option α)}
    (htaken : (Field.maybe name decode).Taken s taken cell) :
    (taken = [] ∨ taken = [(name, .null)]) ∧ cell.getD none = none ∨
      ∃ v a, taken = [(name, v)] ∧ v ≠ .null ∧
        decode (s.step (.member name)) (.ofValue v) = .ok a ∧ cell.getD none = some a := by
  cases htaken with
  | absent => exact .inl ⟨.inl rfl, rfl⟩
  | @present v o hdecode =>
      rcases optional_ofValue_eq_ok_iff.mp hdecode with ⟨rfl, rfl⟩ | ⟨hnull, a, ha, rfl⟩
      · exact .inl ⟨.inr rfl, rfl⟩
      · exact .inr ⟨v, a, rfl, hnull, ha, rfl⟩

theorem Field.taken_maybe {α : Type} {s : Setting} {name : String} {decode : Decoder α}
    {write : α → Value} {o : Option α} (hnull : ∀ a, write a ≠ .null)
    (hdecode : ∀ a ∈ o, decode (s.step (.member name)) (.ofValue (write a)) = .ok a) :
    (Field.maybe name decode).Taken s (o.map fun a => (name, write a)).toList (o.map some) := by
  cases o with
  | none => exact .absent
  | some a =>
      apply Field.Taken.present
      exact optional_ofValue_eq_ok_iff.mpr (.inr ⟨hnull a, a, hdecode a rfl, rfl⟩)

end Document

namespace TemplateInstance

/-- An instance has rules. -/
def normalised : Value → Value
  | .object entries =>
      .object (if "rules" ∈ Entries.names entries then entries
        else entries ++ [("rules", .array [])])
  | v => v

/-- An instance as it is decoded. -/
structure Settled (i : TemplateInstance) : Prop where
  rules : (Value.array i.rules).Settled
  others : (Value.object i.others).Settled
  fresh : "rules" ∉ Entries.names i.others

variable {i : TemplateInstance} {s : Setting} {v : Value}

theorem Settled.wellFormed (hi : i.Settled) : i.toJson.WellFormed := by
  apply Value.WellFormed.object
  · exact List.nodup_cons.mpr ⟨hi.fresh, hi.others.wellFormed.names_nodup⟩
  · intro e he
    rcases List.mem_cons.mp he with rfl | hmore
    · exact hi.rules.wellFormed
    · exact hi.others.wellFormed.entry hmore

theorem Settled.decoder_toJson (hi : i.Settled) (hs : s.Unbounded) :
    decoder s (.ofValue i.toJson) = .ok i := by
  have hrules : Document.list Document.value (s.step (.member "rules"))
      (.ofValue (.array i.rules)) = .ok i.rules :=
    (Document.list_value_ofValue_eq_ok_iff hi.rules.wellFormed (hs.step _)).mpr
      hi.rules.arranged_eq
  apply (Document.openRecord_ofValue_eq_ok_iff hi.wellFormed hs).mpr
  refine ⟨(some i.rules, ()), i.others, (i.rules, ()), ?_, rfl, ?_⟩
  · apply Fields.Took.cons (.present hrules) (.refl _) _ (.nil (.refl _))
    rintro ⟨name, v⟩ he rfl
    exact hi.fresh (List.mem_map_of_mem he)
  · have hothers := Value.object.inj hi.others.arranged_eq
    rw [hothers]

/-- The rules of an instance and the members kept beside them make it up. -/
theorem decoder_ofValue_object {entries : Entries} (hv : (Value.object entries).WellFormed)
    (hs : s.Unbounded) (hdecode : decoder s (.ofValue (.object entries)) = .ok i) :
    ∃ w left members, normalised (.object entries) = .object members ∧
      members.Perm (("rules", w) :: left) ∧ w.WellFormed ∧ w.arranged = .array i.rules ∧
      (Value.object left).WellFormed ∧ "rules" ∉ Entries.names left ∧
      i.others = (arrangedEntries left).sorted := by
  obtain ⟨⟨cell, _⟩, left, row, htook, hfinish, rfl⟩ :=
    (Document.openRecord_ofValue_eq_ok_iff hv hs).mp hdecode
  have hleft := htook.left_wellFormed hv
  have hfresh : "rules" ∉ Entries.names left := by
    intro hname
    obtain ⟨e, he, hrules⟩ := List.mem_map.mp hname
    exact htook.left_fresh e he (List.mem_singleton.mpr hrules)
  cases htook with
  | cons htaken hperm hothers hrest =>
      obtain ⟨hmore⟩ := hrest
      have hperm := hperm.trans (hmore.append_left _)
      cases htaken with
      | @present w rules hrules =>
          obtain rfl := Except.ok.inj hfinish
          have hmember := hperm.mem_iff.mpr List.mem_cons_self
          have hw : w.WellFormed := hv.entry hmember
          have hlist := (Document.list_value_ofValue_eq_ok_iff hw (hs.step _)).mp hrules
          have hname : "rules" ∈ Entries.names entries := List.mem_map_of_mem hmember
          exact ⟨w, left, entries, by rw [normalised, if_pos hname], hperm, hw, hlist, hleft,
            hfresh, rfl⟩
      | absent =>
          obtain rfl := Except.ok.inj hfinish
          have hname : "rules" ∉ Entries.names entries := by
            rwa [Entries.names, (hperm.map Prod.fst).mem_iff]
          have hadded : (entries ++ [("rules", Value.array [])]).Perm
              (("rules", Value.array []) :: left) :=
            List.perm_append_comm.trans (hperm.cons _)
          have hempty : (Value.array []).WellFormed := .array (List.forall_mem_nil _)
          exact ⟨.array [], left, _, by rw [normalised, if_neg hname], hadded, hempty, rfl, hleft,
            hfresh, rfl⟩

/-- A decoded instance is written as it was read, except that its rules are always there. -/
theorem decoder_ofValue (hv : v.WellFormed) (hs : s.Unbounded)
    (hdecode : decoder s (.ofValue v) = .ok i) :
    i.Settled ∧ i.toJson.arranged = (normalised v).arranged := by
  cases v with
  | object entries =>
      obtain ⟨w, left, members, hmembers, hperm, hw, hrules, hleft, hfresh, hothers⟩ :=
        decoder_ofValue_object hv hs hdecode
      have hsettled : i.Settled := by
        refine ⟨hrules ▸ hw.settled, ?_, ?_⟩
        · rw [hothers]
          exact hleft.settled
        · rwa [hothers, hleft.mem_names_sorted]
      refine ⟨hsettled, ?_⟩
      rw [hmembers]
      apply Json.arranged_object_of_perm hsettled.wellFormed.names_nodup
      have hkept : (arrangedEntries i.others).Perm (arrangedEntries left) := by
        rw [hothers]
        exact hleft.arrangedEntries_sorted_perm
      calc arrangedEntries (("rules", .array i.rules) :: i.others)
          = ("rules", w.arranged) :: arrangedEntries i.others := by
            rw [arrangedEntries, hsettled.rules.arranged_eq, hrules]
        _ |>.Perm (("rules", w.arranged) :: arrangedEntries left) := hkept.cons _
        _ |>.Perm (arrangedEntries members) := (Json.arrangedEntries_perm hperm).symm
  | _ => cases hdecode

end TemplateInstance

namespace Creation

/-- A member of an answer as it is written: one that is known is not written when it is
absent, and an instance has rules. -/
def normalisedMember : String × Value → Option (String × Value)
  | (name, .null) => if name = "instance" ∨ name = "preview" then none else some (name, .null)
  | (name, v) => some (name, if name = "instance" then TemplateInstance.normalised v else v)

/-- The object that is written for an answer. -/
def normalised : Value → Value
  | .object entries => .object (entries.filterMap normalisedMember)
  | v => v

/-- The members of an answer that are known. -/
def known (c : Creation) : Entries :=
  (c.inst.map fun i => ("instance", i.toJson)).toList ++
    (c.preview.map fun rules => ("preview", .array rules)).toList

/-- An answer as it is decoded. -/
structure Settled (c : Creation) : Prop where
  inst : ∀ i ∈ c.inst, i.Settled
  preview : ∀ rules ∈ c.preview, (Value.array rules).Settled
  others : (Value.object c.others).Settled
  fresh : ∀ e ∈ c.others, e.1 ∉ fields.names

variable {c : Creation} {s : Setting} {v : Value} {taken entries : Entries}

theorem names_fields : fields.names = ["instance", "preview"] :=
  rfl

theorem normalisedMember_other {e : String × Value} (hname : e.1 ∉ fields.names) :
    normalisedMember e = some e := by
  obtain ⟨name, v⟩ := e
  simp only [names_fields, List.mem_cons, List.not_mem_nil, or_false] at hname
  cases v with
  | null => exact if_neg hname
  | _ =>
      obtain ⟨hinstance, _⟩ := not_or.mp hname
      rw [normalisedMember, if_neg hinstance]
      nofun

theorem filterMap_normalisedMember_other (hnames : ∀ e ∈ entries, e.1 ∉ fields.names) :
    entries.filterMap normalisedMember = entries := by
  induction entries with
  | nil => rfl
  | cons e entries ih =>
      have hrest := ih fun f hf => hnames f (List.mem_cons_of_mem _ hf)
      rw [List.filterMap_cons, normalisedMember_other (hnames e List.mem_cons_self), hrest]

theorem normalisedMember_present (name : String) (hnull : v ≠ .null) :
    normalisedMember (name, v) =
      some (name, if name = "instance" then TemplateInstance.normalised v else v) := by
  cases v with
  | null => contradiction
  | _ => rfl

/-- The member of an instance is written as it was read. -/
theorem taken_instance {cell : Option (Option TemplateInstance)} (hs : s.Unbounded)
    (htaken : (Field.maybe "instance" TemplateInstance.decoder).Taken s taken cell)
    (hwf : ∀ e ∈ taken, e.2.WellFormed) :
    arrangedEntries ((cell.getD none).map fun i => ("instance", i.toJson)).toList =
        arrangedEntries (taken.filterMap normalisedMember) ∧
      ∀ i ∈ cell.getD none, i.Settled := by
  rcases htaken.maybe with ⟨htaken, hcell⟩ | ⟨v, i, rfl, hnull, hdecode, hcell⟩
  · rw [hcell]
    rcases htaken with rfl | rfl
    · exact ⟨rfl, nofun⟩
    · exact ⟨rfl, nofun⟩
  · obtain ⟨hsettled, harranged⟩ :=
      TemplateInstance.decoder_ofValue (hwf _ List.mem_cons_self) (hs.step _) hdecode
    rw [hcell, List.filterMap_cons, normalisedMember_present _ hnull, if_pos rfl]
    refine ⟨?_, fun j hj => Option.some_inj.mp hj ▸ hsettled⟩
    exact congrArg (fun w => [("instance", w)]) harranged

/-- The member of a preview is written as it was read. -/
theorem taken_preview {cell : Option (Option (List Rule))} (hs : s.Unbounded)
    (htaken : (Field.maybe "preview" (Document.list Document.value)).Taken s taken cell)
    (hwf : ∀ e ∈ taken, e.2.WellFormed) :
    arrangedEntries ((cell.getD none).map fun rules => ("preview", Value.array rules)).toList =
        arrangedEntries (taken.filterMap normalisedMember) ∧
      ∀ rules ∈ cell.getD none, (Value.array rules).Settled := by
  rcases htaken.maybe with ⟨htaken, hcell⟩ | ⟨v, rules, rfl, hnull, hdecode, hcell⟩
  · rw [hcell]
    rcases htaken with rfl | rfl
    · exact ⟨rfl, nofun⟩
    · exact ⟨rfl, nofun⟩
  · have hv := hwf _ List.mem_cons_self
    have harranged := (Document.list_value_ofValue_eq_ok_iff hv (hs.step _)).mp hdecode
    have hsettled : (Value.array rules).Settled := harranged ▸ hv.settled
    have hname : ¬"preview" = "instance" := by decide
    rw [hcell, List.filterMap_cons, normalisedMember_present _ hnull, if_neg hname]
    refine ⟨?_, fun j hj => Option.some_inj.mp hj ▸ hsettled⟩
    exact congrArg (fun w => [("preview", w)]) (hsettled.arranged_eq.trans harranged.symm)

theorem known_names_sublist (c : Creation) : (Entries.names c.known).Sublist fields.names := by
  obtain ⟨inst, preview, others⟩ := c
  cases inst <;> cases preview <;> simp [known, Entries.names, names_fields]

theorem Settled.known_wellFormed (hc : c.Settled) : ∀ e ∈ c.known, e.2.WellFormed := by
  intro e he
  rcases List.mem_append.mp he with hinst | hpreview
  · obtain ⟨i, hi, rfl⟩ := Option.map_eq_some_iff.mp (Option.mem_toList.mp hinst)
    exact (hc.inst i hi).wellFormed
  · obtain ⟨rules, hrules, rfl⟩ := Option.map_eq_some_iff.mp (Option.mem_toList.mp hpreview)
    exact (hc.preview rules hrules).wellFormed

theorem Settled.wellFormed (hc : c.Settled) : c.toJson.WellFormed := by
  apply Value.WellFormed.object
  · rw [Entries.names, List.map_append]
    apply List.nodup_append.mpr
    refine ⟨(known_names_sublist c).nodup (by decide), hc.others.wellFormed.names_nodup, ?_⟩
    rintro name hname other hother rfl
    obtain ⟨e, he, rfl⟩ := List.mem_map.mp hother
    exact hc.fresh e he ((known_names_sublist c).subset hname)
  · intro e he
    rcases List.mem_append.mp he with hknown | hother
    · exact hc.known_wellFormed e hknown
    · exact hc.others.wellFormed.entry hother

theorem Settled.decoder_toJson (hc : c.Settled) (hs : s.Unbounded) :
    decoder s (.ofValue c.toJson) = .ok c := by
  apply (Document.openRecord_ofValue_eq_ok_iff hc.wellFormed hs).mpr
  refine ⟨(c.inst.map some, c.preview.map some, ()), c.others, (c.inst, c.preview, ()), ?_, ?_, ?_⟩
  · have hinst : (Field.maybe "instance" TemplateInstance.decoder).Taken s
        (c.inst.map fun i => ("instance", i.toJson)).toList (c.inst.map some) := by
      apply Field.taken_maybe
      · simp [TemplateInstance.toJson]
      · intro i hi
        exact (hc.inst i hi).decoder_toJson (hs.step _)
    have hpreview : (Field.maybe "preview" (Document.list Document.value)).Taken s
        (c.preview.map fun rules => ("preview", .array rules)).toList (c.preview.map some) := by
      apply Field.taken_maybe
      · simp
      · intro rules hrules
        have hrules' := hc.preview rules hrules
        exact (Document.list_value_ofValue_eq_ok_iff hrules'.wellFormed (hs.step _)).mpr
          hrules'.arranged_eq
    have hothers : ∀ e ∈ c.others, e.1 ≠ "instance" ∧ e.1 ≠ "preview" := by
      intro e he
      have hfresh := hc.fresh e he
      simpa [names_fields] using hfresh
    rw [List.append_assoc]
    apply Fields.Took.cons hinst (.refl _)
    · intro e he
      rcases List.mem_append.mp he with hknown | hother
      · obtain ⟨rules, _, rfl⟩ := Option.map_eq_some_iff.mp (Option.mem_toList.mp hknown)
        exact show "preview" ≠ "instance" by decide
      · exact (hothers e hother).1
    · exact .cons hpreview (.refl _) (fun e he => (hothers e he).2) (.nil (.refl _))
  · cases c.inst <;> cases c.preview <;> rfl
  · rw [Value.object.inj hc.others.arranged_eq]

/-- The known members of an answer and the members kept beside them make it up. -/
theorem decoder_ofValue_object (hv : (Value.object entries).WellFormed) (hs : s.Unbounded)
    (hdecode : decoder s (.ofValue (.object entries)) = .ok c) :
    ∃ left, c.Settled ∧ c.others = (arrangedEntries left).sorted ∧
      (Value.object left).WellFormed ∧
      (arrangedEntries (entries.filterMap normalisedMember)).Perm
        (arrangedEntries c.known ++ arrangedEntries left) := by
  obtain ⟨⟨cell, cell', _⟩, left, row, htook, hfinish, rfl⟩ :=
    (Document.openRecord_ofValue_eq_ok_iff hv hs).mp hdecode
  have hleft := htook.left_wellFormed hv
  have hfresh := htook.left_fresh
  have hrow : row = (cell.getD none, cell'.getD none, ()) := by
    cases cell <;> cases cell' <;> exact (Except.ok.inj hfinish).symm
  subst hrow
  cases htook with
  | @cons _ _ _ _ _ taken _ _ _ _ htaken hperm hothers hrest =>
    cases hrest with
    | @cons _ _ _ _ _ taken' _ _ _ _ htaken' hperm' hothers' hrest' =>
      obtain ⟨hmore⟩ := hrest'
      have hall : entries.Perm (taken ++ (taken' ++ left)) :=
        hperm.trans ((hperm'.trans (hmore.append_left _)).append_left _)
      have hwf : ∀ e ∈ taken ++ (taken' ++ left), e.2.WellFormed :=
        fun e he => hv.entry (hall.mem_iff.mpr he)
      obtain ⟨hinst, hinstSettled⟩ := taken_instance hs htaken fun e he =>
        hwf e (List.mem_append_left _ he)
      obtain ⟨hpreview, hpreviewSettled⟩ := taken_preview hs htaken' fun e he =>
        hwf e (List.mem_append_right _ (List.mem_append_left _ he))
      refine ⟨left, ⟨hinstSettled, hpreviewSettled, hleft.settled, ?_⟩, rfl, hleft, ?_⟩
      · intro e he hname
        have hkept := hleft.mem_names_sorted.mp (List.mem_map_of_mem he)
        obtain ⟨e', he', heq⟩ := List.mem_map.mp hkept
        exact hfresh e' he' (heq ▸ hname)
      · have hother : left.filterMap normalisedMember = left :=
          filterMap_normalisedMember_other hfresh
        have hmembers := Json.arrangedEntries_perm (hall.filterMap normalisedMember)
        simp only [List.filterMap_append, hother, Json.arrangedEntries_append, ← hinst,
          ← hpreview] at hmembers
        rwa [known, Json.arrangedEntries_append, List.append_assoc]

/-- A decoded answer is written as it was read, but for absent members and the rules of an
instance. -/
theorem decoder_ofValue (hv : v.WellFormed) (hs : s.Unbounded)
    (hdecode : decoder s (.ofValue v) = .ok c) :
    c.Settled ∧ c.toJson.arranged = (normalised v).arranged := by
  cases v with
  | object entries =>
      obtain ⟨left, hsettled, hothers, hleft, hperm⟩ := decoder_ofValue_object hv hs hdecode
      refine ⟨hsettled, ?_⟩
      apply Json.arranged_object_of_perm hsettled.wellFormed.names_nodup
      rw [Json.arrangedEntries_append, hothers]
      exact (hleft.arrangedEntries_sorted_perm.append_left _).trans hperm.symm
  | _ => cases hdecode

/-- An answer that is decoded is written as the object that was read, up to the order of
members, except that a known member of null is not written and that an instance without
rules has no rules; and what is written is decoded as the same answer. -/
theorem toJson_roundTrip (hv : v.WellFormed) (hdecode : decodeValue decoder v = .ok c) :
    c.toJson.WellFormed ∧ c.toJson.arranged = (normalised v).arranged ∧
      decodeValue decoder c.toJson = .ok c := by
  have hs : Setting.Unbounded ⟨.values, [], none, []⟩ := rfl
  obtain ⟨hsettled, harranged⟩ := decoder_ofValue hv hs hdecode
  exact ⟨hsettled.wellFormed, harranged, hsettled.decoder_toJson hs⟩

namespace RoundTrip

/-- An instance without rules and no preview, beside members that are not known. -/
def read : Value :=
  .object [("request", .string "r-1"), ("preview", .null),
    ("instance", .object [("scope", .object [("zone", .nat 1), ("area", .array [.null])])])]

def kept : Creation :=
  ⟨some ⟨[], [("scope", .object [("area", .array [.null]), ("zone", .nat 1)])]⟩, none,
    [("request", .string "r-1")]⟩

theorem read_wellFormed : read.WellFormed := by
  have harea : (Value.array [.null]).WellFormed := .array (by simp [Value.WellFormed.null])
  have hzone : (Value.nat 1).WellFormed := .number nofun
  have hscope : (Value.object [("zone", .nat 1), ("area", .array [.null])]).WellFormed :=
    .object (by decide) (by simp [hzone, harea])
  have hinst : (Value.object [("scope", .object [("zone", .nat 1),
      ("area", .array [.null])])]).WellFormed := .object (by decide) (by simp [hscope])
  exact .object (by decide) (by simp [hinst, Value.WellFormed.null, Value.WellFormed.string])

theorem read_decoded : decodeValue decoder read = .ok kept := by
  rfl

theorem toJson_kept :
    kept.toJson.WellFormed ∧ kept.toJson.arranged = (normalised read).arranged ∧
      decodeValue decoder kept.toJson = .ok kept :=
  toJson_roundTrip read_wellFormed read_decoded

end RoundTrip

end Creation

end PolicyRollout
