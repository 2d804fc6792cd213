import PolicyRollout.Proofs.Document.Given
/-!
Values that stand for what is read from them.  The order in which the members of their objects
stand does not matter, and a record is denoted by the members of its fields, of which those that
have their default may be left out.
-/
namespace PolicyRollout

namespace Json.Value

variable {w : Value}

theorem arranged_eq_null_iff : w.arranged = .null ↔ w = .null := by
  cases w <;> simp [arranged]

theorem arranged_eq_bool_iff {b : Bool} : w.arranged = .bool b ↔ w = .bool b := by
  cases w <;> simp [arranged]

theorem arranged_eq_number_iff {n : Number} : w.arranged = .number n ↔ w = .number n := by
  cases w <;> simp [arranged]

theorem arranged_eq_string_iff {t : String} : w.arranged = .string t ↔ w = .string t := by
  cases w <;> simp [arranged]

theorem arranged_eq_array_iff {items : List Value} :
    w.arranged = .array items ↔ ∃ ws, w = .array ws ∧ arrangedItems ws = items := by
  cases w <;> simp [arranged]

theorem arranged_eq_object_iff {entries : Entries} :
    w.arranged = .object entries ↔
      ∃ ws, w = .object ws ∧ (arrangedEntries ws).sorted = entries := by
  cases w <;> simp [arranged]

theorem settled_array {items : List Value} (hitems : ∀ v ∈ items, v.Settled) :
    (array items).Settled where
  wellFormed := .array fun v hv => (hitems v hv).wellFormed
  arranged_eq := by
    rw [arranged, arrangedItems_eq_map]
    apply congrArg array
    calc items.map arranged = items.map id :=
          List.map_congr_left fun v hv => (hitems v hv).arranged_eq
      _ = items := List.map_id _

theorem settled_object {entries : Entries} (hordered : entries.Ordered)
    (hentries : ∀ e ∈ entries, e.2.Settled) : (object entries).Settled where
  wellFormed := .object hordered.names_nodup fun e he => (hentries e he).wellFormed
  arranged_eq := by
    have hsame : arrangedEntries entries = entries := by
      rw [arrangedEntries_eq_map]
      calc entries.map (fun e => (e.1, e.2.arranged)) = entries.map id :=
            List.map_congr_left fun e he => Prod.ext rfl (hentries e he).arranged_eq
        _ = entries := List.map_id _
    rw [arranged, hsame, hordered.sorted_eq_of_perm (.refl _)]

end Json.Value

namespace Document

open Json (Entries Value arrangedEntries arrangedItems)

section FreeForm

/-- What a scalar is by itself is a value without members. -/
theorem settled_of_found {found : Found} {v : Value} (hvalue : found.value? = some v) :
    v.Settled := by
  cases found with
  | unit => exact Option.some_inj.mp hvalue ▸ ⟨.null, rfl⟩
  | boolean b => exact Option.some_inj.mp hvalue ▸ ⟨.bool b, rfl⟩
  | float x => exact Option.some_inj.mp hvalue ▸ ⟨.number nofun, rfl⟩
  | text s => exact Option.some_inj.mp hvalue ▸ ⟨.string s, rfl⟩
  | integer n =>
      obtain rfl := Option.some_inj.mp hvalue
      refine ⟨.number ?_, rfl⟩
      by_cases hn : n < 0
      · rw [if_pos hn]
        intro heq
        have hzero := Json.Number.negative.inj heq
        omega
      · rw [if_neg hn]
        nofun
  | _ => cases hvalue

mutual

/-- Any value is kept arranged. -/
theorem freeForm_settled (s : Setting) : (node : Node) → {v : Value} →
    freeForm s node = .ok v → v.Settled
  | .scalar sc, v, hread => by
      rw [freeForm] at hread
      split at hread
      · rename_i found hfound
        obtain rfl := Except.ok.inj hread
        exact settled_of_found hfound
      · cases hread
  | .sequence items stop, v, hread => by
      obtain ⟨inner, _, hread⟩ := bind_eq_ok_iff.mp hread
      obtain ⟨values, hvalues, hread⟩ := bind_eq_ok_iff.mp hread
      cases stop with
      | some b => cases hread
      | none =>
          obtain rfl := Except.ok.inj hread
          exact Value.settled_array (freeFormItems_settled inner items hvalues)
  | .mapping entries stop, v, hread => by
      obtain ⟨inner, _, hread⟩ := bind_eq_ok_iff.mp hread
      obtain ⟨kept, hkept, hread⟩ := bind_eq_ok_iff.mp hread
      cases stop with
      | some b => cases hread
      | none =>
          obtain rfl := Except.ok.inj hread
          have hall := freeFormEntries_settled inner entries .nil nofun hkept
          exact Value.settled_object hall.1 hall.2
  | .spoiled why, v, hread => by cases hread
  | .aliasTo anchor, v, hread => by cases hread
  | .broken stop, v, hread => by cases hread

theorem freeFormItems_settled (s : Setting) : (items : List Node) → {values : List Value} →
    freeFormItems s items = .ok values → ∀ v ∈ values, v.Settled
  | [], values, hread => by
      obtain rfl := Except.ok.inj hread
      nofun
  | item :: items, values, hread => by
      obtain ⟨first, hfirst, hread⟩ := bind_eq_ok_iff.mp hread
      obtain ⟨rest, hrest, hread⟩ := bind_eq_ok_iff.mp hread
      obtain rfl := Except.ok.inj hread
      exact List.forall_mem_cons.mpr
        ⟨freeForm_settled s item hfirst, freeFormItems_settled s items hrest⟩

theorem freeFormEntries_settled (s : Setting) : (entries : List (Node × Node)) →
    {members kept : Entries} → members.Ordered → (∀ e ∈ members, e.2.Settled) →
    freeFormEntries s entries members = .ok kept → kept.Ordered ∧ ∀ e ∈ kept, e.2.Settled
  | [], members, kept, hordered, hmembers, hread => by
      obtain rfl := Except.ok.inj hread
      exact ⟨hordered, hmembers⟩
  | (key, node) :: entries, members, kept, hordered, hmembers, hread => by
      obtain ⟨name, _, hread⟩ := bind_eq_ok_iff.mp hread
      obtain ⟨v, hv, hread⟩ := bind_eq_ok_iff.mp hread
      refine freeFormEntries_settled s entries (Entries.insert_ordered hordered) ?_ hread
      intro e he
      rcases Entries.mem_insert he with rfl | hold
      · exact freeForm_settled s node hv
      · exact hmembers e hold

end

variable {s : Setting} {v a : Value} {kept : Entries}

theorem members_settled {node : Node} (hread : members s node = .ok kept) :
    (Value.object kept).Settled := by
  cases node with
  | mapping entries stop =>
      obtain ⟨v, hv, hread⟩ := bind_eq_ok_iff.mp hread
      cases v with
      | object found =>
          obtain rfl := Except.ok.inj hread
          exact freeForm_settled s _ hv
      | _ => cases hread
  | scalar sc =>
      unfold members unexpected at hread
      cases hbroken : sc.broken <;> simp [hbroken, Setting.complain] at hread
  | _ => cases hread

/-- Only null is kept as null. -/
theorem freeForm_ne_null (hnull : v ≠ .null) (hread : freeForm s (.ofValue v) = .ok a) :
    a ≠ .null := by
  cases v with
  | null => contradiction
  | bool b => exact Except.ok.inj hread ▸ nofun
  | string t => exact Except.ok.inj hread ▸ nofun
  | number n => cases n <;> exact Except.ok.inj hread ▸ nofun
  | array items =>
      obtain ⟨inner, _, hread⟩ := bind_eq_ok_iff.mp hread
      obtain ⟨values, _, hread⟩ := bind_eq_ok_iff.mp hread
      exact Except.ok.inj hread ▸ nofun
  | object entries =>
      obtain ⟨inner, _, hread⟩ := bind_eq_ok_iff.mp hread
      obtain ⟨kept, _, hread⟩ := bind_eq_ok_iff.mp hread
      exact Except.ok.inj hread ▸ nofun

end FreeForm

section Made

/-- A value that a field can have when a record is read from a value. -/
def Field.Made {α : Type} (field : Field α) (a : α) : Prop :=
  (∃ s v, field.decode s (.ofValue v) = .ok a) ∨ field.default = some a ∨
    field.listDefault = some a

namespace Fields

/-- Each value is one that its field can have. -/
inductive Made : {types : List Type} → Fields types → Row types → Prop
  | nil : Made .nil ()
  | cons {α : Type} {types : List Type} {field : Field α} {rest : Fields types} {a : α}
      {row : Row types} (hv : field.Made a) (hrest : rest.Made row) :
      Made (.cons field rest) (a, row)

variable {types : List Type} {fields : Fields types} {s : Setting} {row : Row types}

theorem made_cons_iff {α : Type} {field : Field α} {row : Row (α :: types)} :
    (Fields.cons field fields).Made row ↔
      field.Made (Prod.fst row) ∧ fields.Made (Prod.snd row) := by
  constructor
  · intro hmade
    cases hmade with
    | cons hv hrest => exact ⟨hv, hrest⟩
  · rintro ⟨hv, hrest⟩
    exact .cons hv hrest

theorem Given.made {entries : Entries} (hgiven : fields.Given s entries row) : fields.Made row := by
  induction hgiven with
  | nil => exact .nil
  | cons hfield _ ih =>
      refine .cons ?_ ih
      cases hfield with
      | member _ hdecode => exact .inl ⟨_, _, hdecode⟩
      | default _ hdefault => exact .inr (.inl hdefault)

theorem made_of_readItems {title : String} {index : Nat} {items : List Value} {left : List Node}
    (hread : fields.readItems s title index (Node.ofItems items) none = .ok (row, left)) :
    fields.Made row := by
  induction fields generalizing index items left with
  | nil => exact .nil
  | @cons α types field rest ih =>
      cases items with
      | nil =>
          simp only [Node.ofItems, readItems] at hread
          cases hdefault : field.listDefault with
          | none =>
              rw [hdefault] at hread
              cases hread
          | some a =>
              rw [hdefault] at hread
              obtain ⟨⟨row', left'⟩, hrest, hread⟩ := bind_eq_ok_iff.mp hread
              obtain ⟨rfl, rfl⟩ := Prod.mk.inj (Except.ok.inj hread)
              rw [← Node.ofItems] at hrest
              exact .cons (.inr (.inr hdefault)) (ih hrest)
      | cons item items =>
          obtain ⟨a, ha, hread⟩ := bind_eq_ok_iff.mp hread
          obtain ⟨⟨row', left'⟩, hrest, hread⟩ := bind_eq_ok_iff.mp hread
          obtain ⟨rfl, rfl⟩ := Prod.mk.inj (Except.ok.inj hread)
          exact .cons (.inl ⟨_, _, ha⟩) (ih hrest)

end Fields

variable {α : Type} {s : Setting} {v : Value}

/-- A record is built from values that its fields can have. -/
theorem exists_made_of_record {types : List Type} {fields : Fields types}
    (hfields : fields.names.Nodup) {title : String} {build : Row types → α} {a : α}
    (hread : record title fields build s (.ofValue v) = .ok a) :
    ∃ row, fields.Made row ∧ a = build row := by
  cases v with
  | object entries =>
      have hknown := record_names_nodup hfields hread
      obtain ⟨inner, row, _, hgiven, ha⟩ := (record_eq_ok_iff_given hfields hknown).mp hread
      exact ⟨row, hgiven.made, ha⟩
  | array items =>
      obtain ⟨_, inner, row, _, hrow, ha⟩ := record_array_eq_ok_iff.mp hread
      exact ⟨row, Fields.made_of_readItems hrow, ha⟩
  | number n => cases n <;> cases hread
  | _ => cases hread

theorem Field.Made.withDefault {name : String} {default a : α} {decode : Decoder α}
    (hmade : (Field.withDefault name default decode).Made a) :
    (∃ s v, decode s (.ofValue v) = .ok a) ∨ a = default := by
  rcases hmade with hread | hdefault | hdefault
  · exact .inl hread
  · exact .inr (Option.some_inj.mp hdefault).symm
  · exact .inr (Option.some_inj.mp hdefault).symm

/-- A field that may be absent has a value that was made of something else than null. -/
theorem Field.Made.maybe {name : String} {decode : Decoder α} {o : Option α}
    (hmade : (Field.maybe name decode).Made o) :
    ∀ a ∈ o, ∃ s v, v ≠ .null ∧ decode s (.ofValue v) = .ok a := by
  rintro a rfl
  rcases hmade.withDefault with ⟨s, v, hread⟩ | hdefault
  · rcases optional_ofValue_eq_ok_iff.mp hread with ⟨_, hnone⟩ | ⟨hnull, a', ha, heq⟩
    · cases hnone
    · obtain rfl := Option.some_inj.mp heq
      exact ⟨s, v, hnull, ha⟩
  · cases hdefault

/-- The items of a list are each made of a value. -/
theorem exists_of_mem_list {decode : Decoder α} {found : List α}
    (hread : list decode s (.ofValue v) = .ok found) :
    ∀ a ∈ found, ∃ s v, decode s (.ofValue v) = .ok a := by
  obtain ⟨items, inner, -, -, hitems⟩ := Uniform.list_ofValue_eq_ok_iff.mp hread
  clear hread
  generalize 0 = index at hitems
  induction items generalizing index found with
  | nil =>
      obtain rfl := Except.ok.inj hitems
      nofun
  | cons item items ih =>
      obtain ⟨first, hfirst, hitems⟩ := bind_eq_ok_iff.mp hitems
      obtain ⟨rest, hrest, hitems⟩ := bind_eq_ok_iff.mp hitems
      obtain rfl := Except.ok.inj hitems
      exact List.forall_mem_cons.mpr ⟨⟨_, _, hfirst⟩, ih _ hrest⟩

end Made

/-- A value of which a decoder makes the same thing, in whatever order the members of its objects
stand. -/
structure Denotes {α : Type} (decode : Decoder α) (v : Value) (a : α) : Prop where
  wellFormed : v.WellFormed
  decodes : ∀ {s : Setting} {w : Value}, w.WellFormed → w.arranged = v.arranged →
    s.Roomy w.depth → decode s (.ofValue w) = .ok a

namespace Denotes

variable {α : Type} {decode : Decoder α} {v : Value} {a : α}

theorem text (t : String) : Denotes Document.text (.string t) t where
  wellFormed := .string t
  decodes := by
    intro s w _ heq _
    obtain rfl := Value.arranged_eq_string_iff.mp heq
    rfl

theorem flag (b : Bool) : Denotes Document.flag (.bool b) b where
  wellFormed := .bool b
  decodes := by
    intro s w _ heq _
    obtain rfl := Value.arranged_eq_bool_iff.mp heq
    rfl

theorem value (hv : v.Settled) : Denotes Document.value v v where
  wellFormed := hv.wellFormed
  decodes := by
    intro s w hw heq hs
    rw [hv.arranged_eq] at heq
    exact heq ▸ freeForm_ofValue hw hs

theorem members {kept : Entries} (hkept : (Value.object kept).Settled) :
    Denotes Document.members (.object kept) kept where
  wellFormed := hkept.wellFormed
  decodes := by
    intro s w hw heq hs
    rw [hkept.arranged_eq] at heq
    have hread := freeForm_ofValue hw hs
    obtain ⟨ws, rfl, _⟩ := Value.arranged_eq_object_iff.mp heq
    rw [heq] at hread
    exact bind_eq_ok_iff.mpr ⟨_, hread, rfl⟩

theorem optional (hv : Denotes decode v a) (hnull : v ≠ .null) :
    Denotes (Document.optional decode) v (some a) where
  wellFormed := hv.wellFormed
  decodes := by
    intro s w hw heq hs
    refine optional_ofValue_eq_ok_iff.mpr (.inr ⟨?_, a, hv.decodes hw heq hs, rfl⟩)
    rintro rfl
    exact hnull (Value.arranged_eq_null_iff.mp heq.symm)

theorem decodeItems {write : α → Value} {items : List α}
    (hitems : ∀ a ∈ items, Denotes decode (write a) a) {s : Setting} {ws : List Value}
    (hws : ∀ w ∈ ws, w.WellFormed ∧ s.Roomy w.depth)
    (heq : arrangedItems ws = arrangedItems (items.map write)) (index : Nat) :
    Document.decodeItems decode s index (Node.ofItems ws) = .ok items := by
  induction items generalizing ws index with
  | nil =>
      cases ws with
      | nil => rfl
      | cons w ws => cases heq
  | cons a items ih =>
      cases ws with
      | nil => cases heq
      | cons w ws =>
          obtain ⟨hfirst, hrest⟩ := List.cons.inj heq
          obtain ⟨⟨hw, hroomy⟩, hmore⟩ := List.forall_mem_cons.mp hws
          have hitem := (hitems a List.mem_cons_self).decodes (s := s.step (.item index)) hw hfirst
            hroomy
          have hitems' := ih (fun b hb => hitems b (List.mem_cons_of_mem a hb)) hmore hrest
            (index + 1)
          exact bind_eq_ok_iff.mpr ⟨a, hitem, bind_eq_ok_iff.mpr ⟨items, hitems', rfl⟩⟩

theorem list {write : α → Value} {items : List α}
    (hitems : ∀ a ∈ items, Denotes decode (write a) a) :
    Denotes (Document.list decode) (.array (items.map write)) items where
  wellFormed := by
    apply Value.WellFormed.array
    intro v hv
    obtain ⟨a, ha, rfl⟩ := List.mem_map.mp hv
    exact (hitems a ha).wellFormed
  decodes := by
    intro s w hw heq hs
    obtain ⟨ws, rfl, hws⟩ := Value.arranged_eq_array_iff.mp heq
    obtain ⟨inner, hinner, hroomy⟩ := hs.enter
    refine Uniform.list_ofValue_eq_ok_iff.mpr ⟨ws, inner, rfl, hinner, ?_⟩
    exact decodeItems hitems
      (fun w hmem => ⟨hw.item hmem, hroomy.mono (Json.depth_le_itemsDepth hmem)⟩) hws 0

theorem strings (texts : List String) :
    Denotes (Document.list Document.text) (.strings texts) texts :=
  list fun t _ => text t

theorem decodeValue (hv : Denotes decode v a) : decodeValue decode v = .ok a :=
  hv.decodes hv.wellFormed rfl (by simp [Setting.Roomy])

/-- A value that can be written exactly also denotes by its text what it denotes. -/
theorem decode_text (hv : Denotes decode v a) (hexact : v.Exact)
    (hdepth : v.depth ≤ Json.maxDepth) :
    Json.decode decode (Text.symbolsOfText v.text) = .ok a := by
  have hread := hv.decodes (s := ⟨.json, [], some Json.maxDepth, []⟩) hv.wellFormed rfl
    (by simpa [Setting.Roomy] using hdepth)
  rw [Json.decode, Json.read_text hexact]
  simp only [Source.decode, hread]

end Denotes

/-- Members that denote the values of all fields, in the order of the fields; a member may be left
out if its field has that value by default. -/
inductive Fields.Denotes : {types : List Type} → Fields types → Entries → Row types → Prop
  | nil : Denotes .nil [] ()
  | member {α : Type} {types : List Type} {field : Field α} {rest : Fields types} {v : Value}
      {a : α} {entries : Entries} {row : Row types} (hv : Document.Denotes field.decode v a)
      (hrest : rest.Denotes entries row) :
      Denotes (.cons field rest) ((field.name, v) :: entries) (a, row)
  | omitted {α : Type} {types : List Type} {field : Field α} {rest : Fields types} {a : α}
      {entries : Entries} {row : Row types} (hdefault : field.default = some a)
      (hrest : rest.Denotes entries row) : Denotes (.cons field rest) entries (a, row)

namespace Fields.Denotes

variable {types : List Type} {fields : Fields types} {entries : Entries} {row : Row types}

theorem names_sublist (hdenotes : fields.Denotes entries row) :
    entries.names.Sublist fields.names := by
  induction hdenotes with
  | nil => exact .slnil
  | member _ _ ih => exact ih.cons_cons _
  | omitted _ _ ih => exact ih.cons _

theorem wellFormed (hdenotes : fields.Denotes entries row) : ∀ e ∈ entries, e.2.WellFormed := by
  induction hdenotes with
  | nil => nofun
  | member hv _ ih => exact List.forall_mem_cons.mpr ⟨hv.wellFormed, ih⟩
  | omitted _ _ ih => exact ih

/-- A member that is left out if there is nothing to write. -/
theorem maybe {α : Type} {decode : Decoder α} {write : α → Value} (name : String) {o : Option α}
    (ho : ∀ a ∈ o, Document.Denotes decode (write a) a ∧ write a ≠ .null)
    (hrest : fields.Denotes entries row) :
    (Fields.cons (.maybe name decode) fields).Denotes
      ((o.map fun a => (name, write a)).toList ++ entries) (o, row) := by
  cases o with
  | none => exact .omitted rfl hrest
  | some a =>
      obtain ⟨hdenotes, hnull⟩ := ho a rfl
      exact .member (hdenotes.optional hnull) hrest

/-- Other members of the same names, each the same but for the order of members, give the fields
the same values. -/
theorem given (hdenotes : fields.Denotes entries row) (hnames : fields.names.Nodup) {s : Setting}
    {others : Entries}
    (hmember : ∀ name v, (name, v) ∈ entries →
      ∃ w, (name, w) ∈ others ∧ w.WellFormed ∧ w.arranged = v.arranged ∧ s.Roomy w.depth)
    (habsent : ∀ name ∈ fields.names, name ∉ entries.names → name ∉ others.names) :
    fields.Given s others row := by
  induction hdenotes with
  | nil => exact .nil
  | @member α types field rest v a entries row hv hrest ih =>
      obtain ⟨hname, hrestnames⟩ := List.nodup_cons.mp hnames
      obtain ⟨w, hw, hwf, heq, hroomy⟩ := hmember _ _ List.mem_cons_self
      refine .cons (.member hw (hv.decodes hwf heq hroomy)) (ih hrestnames ?_ ?_)
      · exact fun name v hv => hmember name v (List.mem_cons_of_mem _ hv)
      · intro name hin hnot
        refine habsent name (List.mem_cons_of_mem _ hin) fun hcons => ?_
        rcases List.mem_cons.mp hcons with rfl | hmore
        · exact hname hin
        · exact hnot hmore
  | @omitted α types field rest a entries row hdefault hrest ih =>
      obtain ⟨hname, hrestnames⟩ := List.nodup_cons.mp hnames
      have hfresh : field.name ∉ entries.names := fun hin => hname (hrest.names_sublist.subset hin)
      refine .cons (.default (fun v hv => ?_) hdefault) (ih hrestnames hmember ?_)
      · exact habsent _ List.mem_cons_self hfresh (List.mem_map_of_mem hv)
      · exact fun name hin => habsent name (List.mem_cons_of_mem _ hin)

/-- An object of such members denotes the record. -/
theorem record (hdenotes : fields.Denotes entries row) (hnames : fields.names.Nodup) {α : Type}
    (title : String) (build : Row types → α) :
    Document.Denotes (record title fields build) (.object entries) (build row) where
  wellFormed := .object (hdenotes.names_sublist.nodup hnames) hdenotes.wellFormed
  decodes := by
    intro s w hw heq hs
    obtain ⟨others, rfl, _⟩ := Value.arranged_eq_object_iff.mp heq
    have hperm := (Json.arranged_object_eq_iff hw.names_nodup
      (hdenotes.names_sublist.nodup hnames)).mp heq
    have hsame : ∀ name, name ∈ Entries.names others ↔ name ∈ entries.names := by
      intro name
      rw [← Json.names_arrangedEntries others, ← Json.names_arrangedEntries entries]
      exact (hperm.map Prod.fst).mem_iff
    obtain ⟨inner, hinner, hroomy⟩ := hs.enter
    have hgiven : fields.Given inner others row := by
      refine hdenotes.given hnames ?_ fun name _ hnot hin => hnot ((hsame name).mp hin)
      intro name v hv
      have harranged : (name, v.arranged) ∈ arrangedEntries others := by
        rw [hperm.mem_iff, Json.arrangedEntries_eq_map]
        exact List.mem_map.mpr ⟨(name, v), hv, rfl⟩
      rw [Json.arrangedEntries_eq_map] at harranged
      obtain ⟨⟨name', w⟩, hmem, hboth⟩ := List.mem_map.mp harranged
      obtain ⟨rfl, harr⟩ := Prod.mk.inj hboth
      exact ⟨w, hmem, hw.entry hmem, harr, hroomy.mono (Json.depth_le_entriesDepth hmem)⟩
    have hknown : (fields.known others).names.Nodup :=
      (List.filter_sublist.map Prod.fst).nodup hw.names_nodup
    exact (record_eq_ok_iff_given hnames hknown).mpr ⟨inner, row, hinner, hgiven, rfl⟩

end Fields.Denotes

end Document

end PolicyRollout
