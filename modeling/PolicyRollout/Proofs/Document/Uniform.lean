import Mathlib.Data.List.Forall2
import PolicyRollout.Proofs.Document.Kept
import PolicyRollout.Proofs.Document.Origins
/-!
Decoders that make the same of a value wherever it stands.  The place of a value is only named in
complaints, and the collections that are open around it do not matter as long as its own can be
opened.
-/
namespace PolicyRollout.Document

open Json (Entries Value)

namespace Setting

/-- Settings with room for so many collections that agree on records written as lists. -/
structure Alike (room : Nat) (s s' : Setting) : Prop where
  lists : s.dialect.recordsAsLists = s'.dialect.recordsAsLists
  roomy : s.Roomy room
  roomy' : s'.Roomy room

theorem dialect_enter {s inner : Setting} (henter : s.enter = .ok inner) :
    inner.dialect = s.dialect := by
  unfold enter at henter
  split at henter
  · cases henter
    rfl
  · cases henter
  · cases henter
    rfl

namespace Alike

variable {room : Nat} {s s' : Setting}

theorem symm (halike : Alike room s s') : Alike room s' s :=
  ⟨halike.lists.symm, halike.roomy', halike.roomy⟩

theorem step (halike : Alike room s s') (step step' : Step) :
    Alike room (s.step step) (s'.step step') :=
  ⟨halike.lists, halike.roomy, halike.roomy'⟩


/-- One more collection can be opened in both. -/
theorem enter (halike : Alike (room + 1) s s') :
    ∃ inner inner', s.enter = .ok inner ∧ s'.enter = .ok inner' ∧ Alike room inner inner' := by
  obtain ⟨inner, hinner, hroomy⟩ := halike.roomy.enter
  obtain ⟨inner', hinner', hroomy'⟩ := halike.roomy'.enter
  refine ⟨inner, inner', hinner, hinner', ?_, hroomy, hroomy'⟩
  rw [dialect_enter hinner, dialect_enter hinner']
  exact halike.lists

end Alike

end Setting

/-- A decoder that makes the same of a value in all settings with so much room. -/
structure Uniform {α : Type} (room : Nat) (decode : Decoder α) : Prop where
  same : ∀ {s s' : Setting} {v : Value} {a : α}, s.Alike room s' →
    decode s (.ofValue v) = .ok a → decode s' (.ofValue v) = .ok a

namespace Uniform

variable {α β : Type} {room : Nat} {decode : Decoder α}

theorem iff (huniform : Uniform room decode) {s s' : Setting} (halike : s.Alike room s')
    {v : Value} {a : α} :
    decode s (.ofValue v) = .ok a ↔ decode s' (.ofValue v) = .ok a :=
  ⟨huniform.same halike, huniform.same halike.symm⟩

theorem bind (huniform : Uniform room decode) (f : α → β) :
    Uniform room fun s node => do
      let a ← decode s node
      return f a where
  same := by
    intro s s' v b halike hread
    obtain ⟨a, ha, hb⟩ := bind_eq_ok_iff.mp hread
    exact bind_eq_ok_iff.mpr ⟨a, huniform.same halike ha, hb⟩

theorem text (room : Nat) : Uniform room Document.text where
  same := by
    intro s s' v t _ hread
    cases v with
    | string t' => exact hread
    | number n => cases n <;> cases hread
    | _ => cases hread

theorem flag (room : Nat) : Uniform room Document.flag where
  same := by
    intro s s' v b _ hread
    cases v with
    | bool b' => exact hread
    | number n => cases n <;> cases hread
    | _ => cases hread

theorem integerIn (room : Nat) (low high : Int) (expected : String) :
    Uniform room (Document.integerIn low high expected) where
  same := by
    intro s s' v n _ hread
    have hinteger : ∀ {s : Setting} {m : Int},
        Document.integerIn low high expected s (.scalar (.of (.integer m))) = .ok n ↔
          (low ≤ m && m ≤ high) = true ∧ m = n := by
      intro s m
      by_cases hrange : (low ≤ m && m ≤ high) = true
      · simp [Document.integerIn, Setting.resolve, Scalar.of, hrange]
      · simp [Document.integerIn, Setting.resolve, Scalar.of, hrange, Setting.complain]
    cases v with
    | number k =>
        cases k with
        | float x => cases hread
        | natural m => exact hinteger.mpr (hinteger.mp hread)
        | negative m => exact hinteger.mpr (hinteger.mp hread)
    | _ => cases hread

theorem nat16 (room : Nat) : Uniform room Document.nat16 :=
  (integerIn room 0 65535 "u16").bind Int.toNat

theorem optional (huniform : Uniform room decode) : Uniform room (Document.optional decode) where
  same := by
    intro s s' v o halike hread
    rw [optional_ofValue_eq_ok_iff] at hread ⊢
    rcases hread with habsent | ⟨hnull, a, ha, ho⟩
    · exact Or.inl habsent
    · exact Or.inr ⟨hnull, a, huniform.same halike ha, ho⟩

theorem decodeItems (huniform : Uniform room decode) {s s' : Setting} (halike : s.Alike room s')
    {items : List Value} (index index' : Nat) {values : List α}
    (hread : Document.decodeItems decode s index (Node.ofItems items) = .ok values) :
    Document.decodeItems decode s' index' (Node.ofItems items) = .ok values := by
  induction items generalizing index index' values with
  | nil => exact hread
  | cons item items ih =>
      obtain ⟨first, hfirst, hread⟩ := bind_eq_ok_iff.mp hread
      obtain ⟨rest, hrest, hvalues⟩ := bind_eq_ok_iff.mp hread
      refine bind_eq_ok_iff.mpr ⟨first, huniform.same (halike.step _ _) hfirst, ?_⟩
      exact bind_eq_ok_iff.mpr ⟨rest, ih _ _ hrest, hvalues⟩

/-- A list is read from an array, item by item. -/
theorem list_ofValue_eq_ok_iff {s : Setting} {v : Value} {values : List α} :
    Document.list decode s (.ofValue v) = .ok values ↔ ∃ items inner, v = .array items ∧
      s.enter = .ok inner ∧
      Document.decodeItems decode inner 0 (Node.ofItems items) = .ok values := by
  cases v with
  | array items =>
      constructor
      · intro hread
        obtain ⟨inner, hinner, hread⟩ := bind_eq_ok_iff.mp hread
        obtain ⟨found, hfound, hread⟩ := bind_eq_ok_iff.mp hread
        obtain rfl := Except.ok.inj hread
        exact ⟨items, inner, rfl, hinner, Setting.locate_eq_ok_iff.mp hfound⟩
      · rintro ⟨_, inner, ⟨⟩, hinner, hfound⟩
        apply bind_eq_ok_iff.mpr
        refine ⟨inner, hinner, ?_⟩
        apply bind_eq_ok_iff.mpr
        exact ⟨values, Setting.locate_eq_ok_iff.mpr hfound, rfl⟩
  | number n => cases n <;> exact ⟨nofun, nofun⟩
  | _ => exact ⟨nofun, nofun⟩

theorem list (huniform : Uniform room decode) : Uniform (room + 1) (Document.list decode) where
  same := by
    intro s s' v values halike hread
    obtain ⟨items, inner, rfl, hinner, hitems⟩ := list_ofValue_eq_ok_iff.mp hread
    obtain ⟨inner₁, inner', hinner₁, hinner', hwithin⟩ := halike.enter
    cases hinner.symm.trans hinner₁
    exact list_ofValue_eq_ok_iff.mpr
      ⟨items, inner', rfl, hinner', huniform.decodeItems hwithin 0 0 hitems⟩

end Uniform

namespace Fields

/-- The fields of a record have uniform decoders. -/
inductive Uniform (room : Nat) : {types : List Type} → Fields types → Prop
  | nil : Uniform room .nil
  | cons {α : Type} {types : List Type} {field : Field α} {rest : Fields types}
      (hfield : Document.Uniform room field.decode) (hrest : rest.Uniform room) :
      Uniform room (.cons field rest)

namespace Uniform

variable {types : List Type} {fields : Fields types} {room : Nat} {s s' : Setting}

theorem place (huniform : fields.Uniform room) (halike : s.Alike room s') {key : String}
    {v : Value} {draft : Draft types} {placed : Option (Draft types)}
    (hread : fields.place key s (.ofValue v) draft = .ok placed) :
    fields.place key s' (.ofValue v) draft = .ok placed := by
  induction huniform with
  | nil => exact hread
  | @cons α types field rest hfield _ ih =>
      obtain ⟨cell, draft⟩ := draft
      simp only [Fields.place] at hread ⊢
      by_cases hname : field.name = key
      · rw [if_pos hname] at hread ⊢
        cases cell with
        | some a => cases hread
        | none =>
            obtain ⟨a, ha, hread⟩ := bind_eq_ok_iff.mp hread
            exact bind_eq_ok_iff.mpr ⟨a, hfield.same (halike.step _ _) ha, hread⟩
      · rw [if_neg hname] at hread ⊢
        obtain ⟨placed', hplaced, hread⟩ := bind_eq_ok_iff.mp hread
        exact bind_eq_ok_iff.mpr ⟨placed', ih hplaced, hread⟩

theorem readEntries (huniform : fields.Uniform room) (halike : s.Alike room s')
    {entries : Entries} {progress done : Progress types}
    (hread : fields.readEntries false s (Node.ofEntries entries) progress = .ok done) :
    fields.readEntries false s' (Node.ofEntries entries) progress = .ok done := by
  induction entries generalizing progress with
  | nil => exact hread
  | cons e entries ih =>
      obtain ⟨key, v⟩ := e
      obtain ⟨placed, hplaced, hread⟩ := bind_eq_ok_iff.mp hread
      refine bind_eq_ok_iff.mpr ⟨placed, huniform.place halike hplaced, ?_⟩
      cases placed with
      | some draft => exact ih hread
      | none =>
          simp only [Bool.false_eq_true, if_false, pass_ofValue] at hread ⊢
          exact ih hread

theorem readItems (huniform : fields.Uniform room) (halike : s.Alike room s') {title : String}
    {index : Nat} {items : List Value} {row : Row types} {left : List Node}
    (hread : fields.readItems s title index (Node.ofItems items) none = .ok (row, left)) :
    fields.readItems s' title index (Node.ofItems items) none = .ok (row, left) := by
  induction huniform generalizing index items left with
  | nil => exact hread
  | @cons α types field rest hfield _ ih =>
      cases items with
      | nil =>
          simp only [Node.ofItems, Fields.readItems] at hread ⊢
          cases hdefault : field.listDefault with
          | none =>
              rw [hdefault] at hread
              cases hread
          | some a =>
              rw [hdefault] at hread
              obtain ⟨⟨row', left'⟩, hrest, hread⟩ := bind_eq_ok_iff.mp hread
              have hsame := @ih (index + 1) [] row' left' hrest
              exact bind_eq_ok_iff.mpr ⟨(row', left'), hsame, hread⟩
      | cons item items =>
          obtain ⟨a, ha, hread⟩ := bind_eq_ok_iff.mp hread
          obtain ⟨⟨row', left'⟩, hrest, hread⟩ := bind_eq_ok_iff.mp hread
          refine bind_eq_ok_iff.mpr ⟨a, hfield.same (halike.step _ _) ha, ?_⟩
          exact bind_eq_ok_iff.mpr ⟨(row', left'), ih hrest, hread⟩

end Uniform

theorem finish_of_finish {types : List Type} {fields : Fields types} {s : Setting}
    {draft : Draft types} {row : Row types} (hread : fields.finish s draft = .ok row)
    (s' : Setting) : fields.finish s' draft = .ok row := by
  induction fields with
  | nil => exact hread
  | cons field rest ih =>
      obtain ⟨cell, draft⟩ := draft
      simp only [finish] at hread ⊢
      cases hcell : cell.or field.default with
      | none =>
          rw [hcell] at hread
          cases hread
      | some a =>
          rw [hcell] at hread
          obtain ⟨row', hrest, hread⟩ := bind_eq_ok_iff.mp hread
          exact bind_eq_ok_iff.mpr ⟨row', ih hrest, hread⟩

end Fields

/-- A record is read from an object by its members. -/
theorem record_object_eq_ok_iff {types : List Type} {fields : Fields types} {α : Type}
    {title : String} {build : Row types → α} {s : Setting} {entries : Entries} {a : α} :
    record title fields build s (.ofValue (.object entries)) = .ok a ↔
      ∃ inner progress row, s.enter = .ok inner ∧
        fields.readEntries false inner (Node.ofEntries entries) ⟨fields.blank, []⟩ =
          .ok progress ∧
        fields.finish s progress.draft = .ok row ∧ a = build row := by
  constructor
  · intro hread
    obtain ⟨⟨row, others⟩, hmapping, hread⟩ := bind_eq_ok_iff.mp hread
    obtain ⟨inner, hinner, hmapping⟩ := bind_eq_ok_iff.mp hmapping
    obtain ⟨progress, hprogress, hmapping⟩ := bind_eq_ok_iff.mp hmapping
    obtain ⟨row', hrow, hmapping⟩ := bind_eq_ok_iff.mp hmapping
    obtain ⟨rfl, rfl⟩ := Prod.mk.inj (Except.ok.inj hmapping)
    exact ⟨inner, progress, row', hinner, Setting.locate_eq_ok_iff.mp hprogress, hrow,
      (Except.ok.inj hread).symm⟩
  · rintro ⟨inner, progress, row, hinner, hprogress, hrow, rfl⟩
    have hmapping : fields.readMapping false s (Node.ofEntries entries) none =
        .ok (row, progress.others) := by
      refine bind_eq_ok_iff.mpr ⟨inner, hinner, ?_⟩
      refine bind_eq_ok_iff.mpr ⟨progress, Setting.locate_eq_ok_iff.mpr hprogress, ?_⟩
      exact bind_eq_ok_iff.mpr ⟨row, hrow, rfl⟩
    exact bind_eq_ok_iff.mpr ⟨_, hmapping, rfl⟩

/-- Where the dialect has it, a record is read from an array that has no item too many. -/
theorem record_array_eq_ok_iff {types : List Type} {fields : Fields types} {α : Type}
    {title : String} {build : Row types → α} {s : Setting} {items : List Value} {a : α} :
    record title fields build s (.ofValue (.array items)) = .ok a ↔
      s.dialect.recordsAsLists = true ∧ ∃ inner row, s.enter = .ok inner ∧
        fields.readItems inner (fields.titleWithSize title) 0 (Node.ofItems items) none =
          .ok (row, []) ∧ a = build row := by
  simp only [record, resolve_ofValue]
  simp only [Node.ofValue]
  by_cases hlists : s.dialect.recordsAsLists = true
  · rw [if_pos hlists]
    constructor
    · intro hread
      obtain ⟨inner, hinner, hread⟩ := bind_eq_ok_iff.mp hread
      obtain ⟨⟨row, left⟩, hrow, hread⟩ := bind_eq_ok_iff.mp hread
      cases left with
      | cons item left => cases hread
      | nil => exact ⟨hlists, inner, row, hinner, hrow, (Except.ok.inj hread).symm⟩
    · rintro ⟨_, inner, row, hinner, hrow, rfl⟩
      refine bind_eq_ok_iff.mpr ⟨inner, hinner, ?_⟩
      exact bind_eq_ok_iff.mpr ⟨(row, []), hrow, rfl⟩
  · rw [if_neg hlists]
    constructor
    · intro hread
      cases hread
    · rintro ⟨hyes, _⟩
      exact absurd hyes hlists

theorem Uniform.record {types : List Type} {fields : Fields types} {room : Nat} {α : Type}
    (huniform : fields.Uniform room) (title : String) (build : Row types → α) :
    Uniform (room + 1) (Document.record title fields build) where
  same := by
    intro s s' v a halike hread
    obtain ⟨inner₁, inner', hinner₁, hinner', hwithin⟩ := halike.enter
    cases v with
    | object entries =>
        obtain ⟨inner, progress, row, hinner, hprogress, hrow, ha⟩ :=
          record_object_eq_ok_iff.mp hread
        cases hinner.symm.trans hinner₁
        exact record_object_eq_ok_iff.mpr ⟨inner', progress, row, hinner',
          huniform.readEntries hwithin hprogress, Fields.finish_of_finish hrow s', ha⟩
    | array items =>
        obtain ⟨hlists, inner, row, hinner, hrow, ha⟩ := record_array_eq_ok_iff.mp hread
        cases hinner.symm.trans hinner₁
        exact record_array_eq_ok_iff.mpr ⟨halike.lists ▸ hlists, inner', row, hinner',
          huniform.readItems hwithin hrow, ha⟩
    | number n => cases n <;> cases hread
    | _ => cases hread

section Values

variable {α : Type} {room : Nat} {decode : Decoder α} {s : Setting}

/-- A setting is like that of a value that has been read before. -/
theorem Setting.alike_values (hroomy : s.Roomy room) (hlists : s.dialect.recordsAsLists = true) :
    s.Alike room ⟨.values, [], none, []⟩ :=
  ⟨hlists, hroomy, by simp [Setting.Roomy]⟩

theorem Uniform.decodeItems_eq_ok_iff (huniform : Uniform room decode) (hroomy : s.Roomy room)
    (hlists : s.dialect.recordsAsLists = true) {items : List Value} {values : List α}
    (index : Nat) :
    Document.decodeItems decode s index (Node.ofItems items) = .ok values ↔
      List.Forall₂ (fun item a => decodeValue decode item = .ok a) items values := by
  induction items generalizing index values with
  | nil => simp [Node.ofItems, Document.decodeItems, eq_comm]
  | cons item items ih =>
      have hitem : ∀ {a}, decode (s.step (.item index)) (.ofValue item) = .ok a ↔
          decodeValue decode item = .ok a :=
        huniform.iff (Setting.alike_values (s := s.step (.item index)) hroomy hlists)
      constructor
      · intro hread
        obtain ⟨first, hfirst, hread⟩ := bind_eq_ok_iff.mp hread
        obtain ⟨rest, hrest, hvalues⟩ := bind_eq_ok_iff.mp hread
        obtain rfl := Except.ok.inj hvalues
        exact .cons (hitem.mp hfirst) ((ih _).mp hrest)
      · rintro (_ | ⟨hfirst, hrest⟩)
        refine bind_eq_ok_iff.mpr ⟨_, hitem.mpr hfirst, ?_⟩
        exact bind_eq_ok_iff.mpr ⟨_, (ih _).mpr hrest, rfl⟩

/-- A list is read from an array of which every item is read by itself. -/
theorem Uniform.list_eq_ok_iff (huniform : Uniform room decode) (hroomy : s.Roomy (room + 1))
    (hlists : s.dialect.recordsAsLists = true) {v : Value} {values : List α} :
    Document.list decode s (.ofValue v) = .ok values ↔ ∃ items, v = .array items ∧
      List.Forall₂ (fun item a => decodeValue decode item = .ok a) items values := by
  obtain ⟨inner, hinner, hwithin⟩ := hroomy.enter
  have hinnerlists : inner.dialect.recordsAsLists = true :=
    (Setting.dialect_enter hinner).symm ▸ hlists
  rw [list_ofValue_eq_ok_iff]
  constructor
  · rintro ⟨items, inner', rfl, hinner', hread⟩
    cases hinner.symm.trans hinner'
    exact ⟨items, rfl, (huniform.decodeItems_eq_ok_iff hwithin hinnerlists 0).mp hread⟩
  · rintro ⟨items, rfl, hitems⟩
    exact ⟨items, inner, rfl, hinner,
      (huniform.decodeItems_eq_ok_iff hwithin hinnerlists 0).mpr hitems⟩

end Values

end PolicyRollout.Document
