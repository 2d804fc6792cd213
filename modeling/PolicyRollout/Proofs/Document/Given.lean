import Mathlib.Data.List.Nodup
import PolicyRollout.Proofs.Document.Uniform
/-!
What an object gives to the fields of a record.  A field is given what it makes of the member of
its name, or its default where there is no such member, and members of unknown names change
nothing.
-/
namespace PolicyRollout.Document

open Json (Entries Value)

/-- What an object gives to a field. -/
inductive Field.Given {α : Type} (s : Setting) (entries : Entries) (field : Field α) : α → Prop
  | member {v : Value} {a : α} (hmember : (field.name, v) ∈ entries)
      (hdecode : field.decode (s.step (.member field.name)) (.ofValue v) = .ok a) :
      Given s entries field a
  | default {a : α} (habsent : ∀ v, (field.name, v) ∉ entries)
      (hdefault : field.default = some a) : Given s entries field a

namespace Fields

/-- What an object gives to the fields of a record. -/
inductive Given (s : Setting) (entries : Entries) :
    {types : List Type} → Fields types → Row types → Prop
  | nil : Given s entries .nil ()
  | cons {α : Type} {types : List Type} {field : Field α} {rest : Fields types} {a : α}
      {row : Row types} (hfield : field.Given s entries a) (hrest : rest.Given s entries row) :
      Given s entries (.cons field rest) (a, row)

/-- The members that have the name of a field. -/
def known {types : List Type} (fields : Fields types) (entries : Entries) : Entries :=
  entries.filter fun e => e.1 ∈ fields.names

section

variable {types : List Type} {fields : Fields types} {s : Setting} {entries others : Entries}
  {row : Row types}

theorem known_cons_of_mem {key : String} (hkey : key ∈ fields.names) {v : Value} :
    fields.known ((key, v) :: entries) = (key, v) :: fields.known entries :=
  List.filter_cons_of_pos (by simpa using hkey)

theorem known_cons_of_not_mem {key : String} (hkey : key ∉ fields.names) {v : Value} :
    fields.known ((key, v) :: entries) = fields.known entries :=
  List.filter_cons_of_neg (by simpa using hkey)

theorem Given.of_members (hgiven : fields.Given s entries row)
    (hsame : ∀ name ∈ fields.names, ∀ v, (name, v) ∈ entries ↔ (name, v) ∈ others) :
    fields.Given s others row := by
  induction hgiven with
  | nil => exact .nil
  | @cons α types field rest a row hfield _ ih =>
      have hfirst := hsame field.name List.mem_cons_self
      refine .cons ?_ (ih fun name hname => hsame name (List.mem_cons_of_mem _ hname))
      cases hfield with
      | member hmember hdecode => exact .member ((hfirst _).mp hmember) hdecode
      | default habsent hdefault =>
          exact .default (fun v hv => habsent v ((hfirst v).mpr hv)) hdefault

theorem given_cons_iff {α : Type} {field : Field α} {rest : Fields types} {a : α} :
    (Fields.cons field rest).Given s entries (a, row) ↔
      field.Given s entries a ∧ rest.Given s entries row := by
  constructor
  · intro hgiven
    cases hgiven with
    | cons hfield hrest => exact ⟨hfield, hrest⟩
  · rintro ⟨hfield, hrest⟩
    exact .cons hfield hrest

/-- An object without the member of a name. -/
theorem exists_others {name : String} {v : Value} (hnames : entries.names.Nodup)
    (hmember : (name, v) ∈ entries) : ∃ others : Entries, entries.Perm ((name, v) :: others) ∧
      (∀ e ∈ others, e.1 ≠ name) ∧ others.names.Nodup := by
  obtain ⟨front, back, rfl⟩ := List.append_of_mem hmember
  have hmiddle : (front ++ (name, v) :: back).Perm ((name, v) :: (front ++ back)) :=
    List.perm_middle
  obtain ⟨hfresh, hothers⟩ := List.nodup_cons.mp ((hmiddle.map Prod.fst).nodup hnames)
  refine ⟨front ++ back, hmiddle, ?_, hothers⟩
  rintro ⟨name', w⟩ he rfl
  exact hfresh (List.mem_map.mpr ⟨(name', w), he, rfl⟩)

/-- What fields are given is what they take and the defaults of those that take nothing. -/
theorem given_iff_took (hfields : fields.names.Nodup) (hnames : entries.names.Nodup) :
    fields.Given s entries row ↔ ∃ draft left, fields.Took s entries draft left ∧
      fields.finish s draft = .ok row := by
  induction fields generalizing entries with
  | nil => exact ⟨fun _ => ⟨(), entries, .nil (.refl _), rfl⟩, fun _ => .nil⟩
  | @cons α types field rest ih =>
      obtain ⟨hname, hrestnames⟩ := List.nodup_cons.mp hfields
      obtain ⟨a, row⟩ := row
      rw [given_cons_iff]
      by_cases hmember : ∃ v, (field.name, v) ∈ entries
      · obtain ⟨v, hv⟩ := hmember
        obtain ⟨others, hperm, hothers, hothersnames⟩ := exists_others hnames hv
        have hsame : ∀ name ∈ rest.names, ∀ w, (name, w) ∈ entries ↔ (name, w) ∈ others := by
          intro name hrest w
          have hne : name ≠ field.name := fun heq => hname (heq ▸ hrest)
          simp [hperm.mem_iff, hne]
        constructor
        · rintro ⟨hfield, hrest⟩
          obtain ⟨draft, left, htook, hfinish⟩ :=
            (ih hrestnames hothersnames).mp (hrest.of_members hsame)
          cases hfield with
          | default habsent hdefault => exact absurd hv (habsent v)
          | @member w a hw hdecode =>
              obtain rfl : w = v := by
                rcases List.mem_cons.mp (hperm.mem_iff.mp hw) with heq | hin
                · exact (Prod.mk.inj heq).2
                · exact absurd rfl (hothers _ hin)
              refine ⟨(some a, draft), left, ?_, bind_eq_ok_iff.mpr ⟨row, hfinish, rfl⟩⟩
              exact (took_cons_present_iff hperm hothers).mpr ⟨a, rfl, hdecode, htook⟩
        · rintro ⟨⟨cell, draft⟩, left, htook, hfinish⟩
          obtain ⟨b, rfl, hdecode, hrest⟩ := (took_cons_present_iff hperm hothers).mp htook
          obtain ⟨row', hfinish', heq⟩ := bind_eq_ok_iff.mp hfinish
          obtain ⟨rfl, rfl⟩ := Prod.mk.inj (Except.ok.inj heq)
          refine ⟨.member hv hdecode, ?_⟩
          have hothersgiven := (ih hrestnames hothersnames).mpr ⟨draft, left, hrest, hfinish'⟩
          exact hothersgiven.of_members fun name hname w => (hsame name hname w).symm
      · have habsent : ∀ v, (field.name, v) ∉ entries := not_exists.mp hmember
        have hne : ∀ e ∈ entries, e.1 ≠ field.name := by
          rintro ⟨name, v⟩ he rfl
          exact habsent v he
        constructor
        · rintro ⟨hfield, hrest⟩
          obtain ⟨draft, left, htook, hfinish⟩ := (ih hrestnames hnames).mp hrest
          cases hfield with
          | member hv => exact absurd hv (habsent _)
          | default _ hdefault =>
              refine ⟨(none, draft), left, (took_cons_absent_iff hne).mpr ⟨rfl, htook⟩, ?_⟩
              simp only [finish, Option.none_or, hdefault]
              exact bind_eq_ok_iff.mpr ⟨row, hfinish, rfl⟩
        · rintro ⟨⟨cell, draft⟩, left, htook, hfinish⟩
          obtain ⟨rfl, hrest⟩ := (took_cons_absent_iff hne).mp htook
          simp only [finish, Option.none_or] at hfinish
          cases hdefault : field.default with
          | none =>
              rw [hdefault] at hfinish
              cases hfinish
          | some b =>
              rw [hdefault] at hfinish
              obtain ⟨row', hfinish', heq⟩ := bind_eq_ok_iff.mp hfinish
              obtain ⟨rfl, rfl⟩ := Prod.mk.inj (Except.ok.inj heq)
              exact ⟨.default habsent hdefault, (ih hrestnames hnames).mpr
                ⟨draft, left, hrest, hfinish'⟩⟩

theorem place_of_unknown {key : String} (hkey : key ∉ fields.names) (node : Node)
    (draft : Draft types) : fields.place key s node draft = .ok none := by
  induction fields with
  | nil => rfl
  | cons field rest ih =>
      obtain ⟨hne, hrest⟩ := not_or.mp fun hor => hkey (List.mem_cons.mpr hor)
      obtain ⟨cell, draft⟩ := draft
      simp only [place, if_neg (Ne.symm hne), ih hrest draft]
      rfl

/-- The names of the fields that have been read. -/
def filled : {types : List Type} → Fields types → Draft types → List String
  | _, .nil, _ => []
  | _, .cons field rest, (some _, draft) => field.name :: rest.filled draft
  | _, .cons _ rest, (none, draft) => rest.filled draft

theorem filled_subset_names (fields : Fields types) (draft : Draft types) :
    fields.filled draft ⊆ fields.names := by
  induction fields with
  | nil => exact List.Subset.refl _
  | cons field rest ih =>
      obtain ⟨cell, draft⟩ := draft
      cases cell with
      | none => exact List.Subset.trans (ih draft) (List.subset_cons_self _ _)
      | some a => exact List.cons_subset_cons _ (ih draft)

/-- A member of the name of a field is read into that field, which has not been read before. -/
theorem place_of_known (hfields : fields.names.Nodup) {key : String} (hkey : key ∈ fields.names)
    {node : Node} {draft : Draft types} {placed : Option (Draft types)}
    (hplace : fields.place key s node draft = .ok placed) :
    key ∉ fields.filled draft ∧ ∃ draft', placed = some draft' ∧
      ∀ name, name ∈ fields.filled draft' ↔ name = key ∨ name ∈ fields.filled draft := by
  induction fields with
  | nil => cases hkey
  | cons field rest ih =>
      obtain ⟨hname, hrestnames⟩ := List.nodup_cons.mp hfields
      obtain ⟨cell, draft⟩ := draft
      simp only [place] at hplace
      by_cases heq : field.name = key
      · rw [if_pos heq] at hplace
        cases cell with
        | some earlier => cases hplace
        | none =>
            obtain ⟨a, _, hplaced⟩ := bind_eq_ok_iff.mp hplace
            obtain rfl := Except.ok.inj hplaced
            refine ⟨fun hfilled => hname (heq ▸ rest.filled_subset_names draft hfilled),
              (some a, draft), rfl, fun name => ?_⟩
            rw [filled, filled, List.mem_cons, heq]
      · rw [if_neg heq] at hplace
        obtain ⟨later, hlater, hplaced⟩ := bind_eq_ok_iff.mp hplace
        obtain rfl := Except.ok.inj hplaced
        have hin : key ∈ rest.names := (List.mem_cons.mp hkey).resolve_left (Ne.symm heq)
        obtain ⟨hfresh, draft', rfl, hfilled⟩ := ih hrestnames hin hlater
        refine ⟨?_, (cell, draft'), rfl, fun name => ?_⟩
        · cases cell with
          | none => exact hfresh
          | some a => exact List.not_mem_cons_of_ne_of_not_mem (Ne.symm heq) hfresh
        · cases cell with
          | none => exact hfilled name
          | some a => simp only [filled, List.mem_cons, hfilled, or_left_comm]

/-- Members of unknown names are passed over. -/
theorem readEntries_known (progress : Progress types) :
    fields.readEntries false s (Node.ofEntries entries) progress =
      fields.readEntries false s (Node.ofEntries (fields.known entries)) progress := by
  induction entries generalizing progress with
  | nil => rfl
  | cons e entries ih =>
      obtain ⟨key, v⟩ := e
      have hname : textAs "field identifier" s (Node.text key) = .ok key := rfl
      by_cases hkey : key ∈ fields.names
      · rw [known_cons_of_mem hkey, Node.ofEntries, Node.ofEntries, readEntries, readEntries, hname]
        simp only [bind, Except.bind]
        cases fields.place key s (Node.ofValue v) progress.draft with
        | error c => rfl
        | ok placed =>
            cases placed with
            | some draft => exact ih _
            | none =>
                simp only [Bool.false_eq_true, if_false, pass_ofValue]
                exact ih _
      · rw [known_cons_of_not_mem hkey, Node.ofEntries, readEntries, hname]
        simp only [bind, Except.bind, place_of_unknown hkey, Bool.false_eq_true, if_false,
          pass_ofValue]
        exact ih progress

/-- No name of a field is repeated in an object that is read. -/
theorem readEntries_names_nodup (hfields : fields.names.Nodup) {progress done : Progress types}
    (hread : fields.readEntries false s (Node.ofEntries entries) progress = .ok done) :
    (fields.known entries).names.Nodup ∧
      ∀ name ∈ (fields.known entries).names, name ∉ fields.filled progress.draft := by
  induction entries generalizing progress with
  | nil => exact ⟨List.nodup_nil, by simp [known, Json.Entries.names]⟩
  | cons e entries ih =>
      obtain ⟨key, v⟩ := e
      obtain ⟨placed, hplaced, hread⟩ := bind_eq_ok_iff.mp hread
      by_cases hkey : key ∈ fields.names
      · obtain ⟨hfresh, draft', rfl, hfilled⟩ := place_of_known hfields hkey hplaced
        obtain ⟨hnodup, hothers⟩ := ih hread
        have hnot : ∀ name ∈ (fields.known entries).names,
            name ≠ key ∧ name ∉ fields.filled progress.draft := by
          intro name hname
          exact not_or.mp fun hor => hothers name hname ((hfilled name).mpr hor)
        rw [known_cons_of_mem hkey]
        refine ⟨List.nodup_cons.mpr ⟨fun hin => (hnot key hin).1 rfl, hnodup⟩, ?_⟩
        intro name hname
        rcases List.mem_cons.mp hname with rfl | hin
        · exact hfresh
        · exact (hnot name hin).2
      · rw [place_of_unknown hkey] at hplaced
        obtain rfl := Except.ok.inj hplaced
        simp only [Bool.false_eq_true, if_false, pass_ofValue] at hread
        rw [known_cons_of_not_mem hkey]
        exact ih hread

end

end Fields

section

variable {types : List Type} {fields : Fields types} {α : Type} {s : Setting} {entries : Entries}

/-- Members of unknown names change nothing in how a record is read. -/
theorem record_known (title : String) (build : Row types → α) :
    record title fields build s (.ofValue (.object entries)) =
      record title fields build s (.ofValue (.object (fields.known entries))) := by
  have hentries : ∀ inner, fields.readEntries false inner (Node.ofEntries entries)
      ⟨fields.blank, []⟩ = fields.readEntries false inner (Node.ofEntries (fields.known entries))
      ⟨fields.blank, []⟩ := fun _ => Fields.readEntries_known _
  simp only [record, resolve_ofValue]
  simp only [Node.ofValue, Fields.readMapping, hentries]

/-- Nothing is read from an object in which the name of a field is repeated. -/
theorem record_names_nodup (hfields : fields.names.Nodup) {title : String}
    {build : Row types → α} {a : α}
    (hread : record title fields build s (.ofValue (.object entries)) = .ok a) :
    (fields.known entries).names.Nodup := by
  obtain ⟨inner, progress, row, _, hprogress, _, _⟩ := record_object_eq_ok_iff.mp hread
  exact (Fields.readEntries_names_nodup hfields hprogress).1

/-- A record is built from what an object gives to its fields, if no name of a field is repeated. -/
theorem record_eq_ok_iff_given (hfields : fields.names.Nodup)
    (hknown : (fields.known entries).names.Nodup) {title : String} {build : Row types → α} {a : α} :
    record title fields build s (.ofValue (.object entries)) = .ok a ↔
      ∃ inner row, s.enter = .ok inner ∧ fields.Given inner entries row ∧ a = build row := by
  have hsame : ∀ name ∈ fields.names, ∀ v,
      (name, v) ∈ fields.known entries ↔ (name, v) ∈ entries := by
    intro name hname v
    simp [Fields.known, hname]
  rw [record_known, record_object_eq_ok_iff]
  constructor
  · rintro ⟨inner, progress, row, hinner, hprogress, hrow, ha⟩
    obtain ⟨left, htook, _⟩ := (Fields.readEntries_eq_ok_iff false hknown nofun _).mp hprogress
    have hgiven := (Fields.given_iff_took hfields hknown).mpr
      ⟨progress.draft, left, htook, Fields.finish_of_finish hrow inner⟩
    exact ⟨inner, row, hinner, hgiven.of_members hsame, ha⟩
  · rintro ⟨inner, row, hinner, hgiven, ha⟩
    have hknowngiven := hgiven.of_members fun name hname v => (hsame name hname v).symm
    obtain ⟨draft, left, htook, hfinish⟩ := (Fields.given_iff_took hfields hknown).mp hknowngiven
    exact ⟨inner, ⟨draft, []⟩, row, hinner,
      (Fields.readEntries_eq_ok_iff false hknown nofun _).mpr ⟨left, htook, rfl⟩,
      Fields.finish_of_finish hfinish s, ha⟩

end

/-- The member of a field is the only one of its name. -/
theorem Fields.member_unique {types : List Type} {fields : Fields types} {entries : Entries}
    (hknown : (fields.known entries).names.Nodup) {name : String} (hname : name ∈ fields.names)
    {v w : Value} (hv : (name, v) ∈ entries) (hw : (name, w) ∈ entries) : v = w := by
  have hmem : ∀ {v}, (name, v) ∈ entries → (name, v) ∈ fields.known entries := fun hv =>
    List.mem_filter.mpr ⟨hv, by simpa using hname⟩
  exact (Prod.mk.inj (List.inj_on_of_nodup_map hknown (hmem hv) (hmem hw) rfl)).2

/-- A member of an object is missing or null. -/
def Absent (entries : Entries) (name : String) : Prop :=
  (name, .null) ∈ entries ∨ ∀ v, (name, v) ∉ entries

/-- The text that a member of an object holds, if it is not absent. -/
def HoldsText (entries : Entries) (name : String) : Option String → Prop
  | some text => (name, .string text) ∈ entries
  | none => Absent entries name

section

variable {s : Setting} {entries : Entries} {name : String}

theorem text_ofValue_eq_ok_iff {v : Value} {t : String} :
    text s (.ofValue v) = .ok t ↔ v = .string t := by
  cases v with
  | string t' =>
      constructor
      · intro hread
        exact congrArg Value.string (Except.ok.inj hread)
      · rintro ⟨⟩
        rfl
  | number n => cases n <;> exact ⟨nofun, nofun⟩
  | _ => exact ⟨nofun, nofun⟩

theorem flag_ofValue_eq_ok_iff {v : Value} {b : Bool} :
    flag s (.ofValue v) = .ok b ↔ v = .bool b := by
  cases v with
  | bool b' =>
      constructor
      · intro hread
        exact congrArg Value.bool (Except.ok.inj hread)
      · rintro ⟨⟩
        rfl
  | number n => cases n <;> exact ⟨nofun, nofun⟩
  | _ => exact ⟨nofun, nofun⟩

theorem decodeItems_text {index : Nat} {items : List Value} {texts : List String}
    (hread : decodeItems text s index (Node.ofItems items) = .ok texts) :
    items = texts.map Value.string := by
  induction items generalizing index texts with
  | nil =>
      obtain rfl := Except.ok.inj hread
      rfl
  | cons item items ih =>
      obtain ⟨first, hfirst, hread⟩ := bind_eq_ok_iff.mp hread
      obtain ⟨rest, hrest, htexts⟩ := bind_eq_ok_iff.mp hread
      obtain rfl := Except.ok.inj htexts
      rw [text_ofValue_eq_ok_iff.mp hfirst, ih hrest, List.map_cons]

/-- A list of texts is read from an array of strings. -/
theorem list_text_ofValue_eq_ok_iff (hroomy : s.Roomy 1) {v : Value} {texts : List String} :
    list text s (.ofValue v) = .ok texts ↔ v = .strings texts := by
  constructor
  · intro hread
    obtain ⟨items, inner, rfl, _, hitems⟩ := Uniform.list_ofValue_eq_ok_iff.mp hread
    rw [decodeItems_text hitems, Value.strings]
  · rintro rfl
    exact (Conveys.strings 0 texts).decodes hroomy

theorem given_required_iff {α : Type} {decode : Decoder α} {a : α} :
    (Field.required name decode).Given s entries a ↔
      ∃ v, (name, v) ∈ entries ∧ decode (s.step (.member name)) (.ofValue v) = .ok a := by
  constructor
  · intro hgiven
    cases hgiven with
    | member hmember hdecode => exact ⟨_, hmember, hdecode⟩
    | default _ hdefault => cases hdefault
  · rintro ⟨v, hmember, hdecode⟩
    exact .member hmember hdecode

theorem given_text_iff {t : String} :
    (Field.required name text).Given s entries t ↔ (name, .string t) ∈ entries := by
  simp only [given_required_iff, text_ofValue_eq_ok_iff, exists_eq_right]

/-- A field with a default is given it where there is no member of its name. -/
theorem given_withDefault_iff {α : Type} {default a : α} {decode : Decoder α} :
    (Field.withDefault name default decode).Given s entries a ↔
      (∃ v, (name, v) ∈ entries ∧ decode (s.step (.member name)) (.ofValue v) = .ok a) ∨
      (∀ v, (name, v) ∉ entries) ∧ a = default := by
  constructor
  · intro hgiven
    cases hgiven with
    | member hmember hdecode => exact Or.inl ⟨_, hmember, hdecode⟩
    | default habsent hdefault => exact Or.inr ⟨habsent, (Option.some_inj.mp hdefault).symm⟩
  · rintro (⟨v, hmember, hdecode⟩ | ⟨habsent, rfl⟩)
    · exact .member hmember hdecode
    · exact .default habsent rfl

/-- A field that may be absent is given nothing by a member that is missing or null. -/
theorem given_maybe_iff {α : Type} {decode : Decoder α} {o : Option α} :
    (Field.maybe name decode).Given s entries o ↔
      Absent entries name ∧ o = none ∨
      ∃ v a, (name, v) ∈ entries ∧ v ≠ .null ∧
        decode (s.step (.member name)) (.ofValue v) = .ok a ∧ o = some a := by
  constructor
  · intro hgiven
    cases hgiven with
    | default habsent hdefault =>
        exact Or.inl ⟨Or.inr habsent, (Option.some_inj.mp hdefault).symm⟩
    | @member v _ hmember hdecode =>
        rcases optional_ofValue_eq_ok_iff.mp hdecode with ⟨rfl, ho⟩ | ⟨hnull, a, ha, ho⟩
        · exact Or.inl ⟨Or.inl hmember, ho⟩
        · exact Or.inr ⟨v, a, hmember, hnull, ha, ho⟩
  · rintro (⟨hnull | habsent, rfl⟩ | ⟨v, a, hmember, hnull, ha, rfl⟩)
    · exact .member hnull rfl
    · exact .default habsent rfl
    · exact .member hmember (optional_ofValue_eq_ok_iff.mpr (Or.inr ⟨hnull, a, ha, rfl⟩))

theorem given_maybe_text_iff {o : Option String} :
    (Field.maybe name text).Given s entries o ↔ HoldsText entries name o := by
  rw [given_maybe_iff]
  constructor
  · rintro (⟨habsent, rfl⟩ | ⟨v, t, hmember, _, ht, rfl⟩)
    · exact habsent
    · obtain rfl := text_ofValue_eq_ok_iff.mp ht
      exact hmember
  · intro hholds
    cases o with
    | none => exact Or.inl ⟨hholds, rfl⟩
    | some t => exact Or.inr ⟨.string t, t, hholds, nofun, rfl, rfl⟩

end

end PolicyRollout.Document
