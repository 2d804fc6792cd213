import PolicyRollout.Document.Record
/-!
Where the values of a record come from.  However a record is read, from a mapping or from the
list of its fields, each of its values was made by the decoder of its field or is a default of
that field.
-/
namespace PolicyRollout.Document

theorem bind_eq_ok_iff {ε α β : Type} {result : Except ε α} {f : α → Except ε β} {b : β} :
    result.bind f = .ok b ↔ ∃ a, result = .ok a ∧ f a = .ok b := by
  cases result with
  | error e => simp [Except.bind]
  | ok a => simp [Except.bind]

theorem Setting.locate_eq_ok_iff {α : Type} {s : Setting} {result : Except Complaint α} {a : α} :
    s.locate result = .ok a ↔ result = .ok a := by
  rcases result with ⟨reason, place | place⟩ | value
  · simp [locate]
  · simp [locate]
  · simp [locate]

/-- A value that a field can have: its decoder makes it of some node, or it is a default. -/
def Field.CanBe {α : Type} (field : Field α) (a : α) : Prop :=
  (∃ s node, field.decode s node = .ok a) ∨ field.default = some a ∨ field.listDefault = some a

namespace Fields

/-- Each value is one that its field can have. -/
inductive CanBe : {types : List Type} → Fields types → Row types → Prop
  | nil : CanBe .nil ()
  | cons {α : Type} {types : List Type} {field : Field α} {rest : Fields types} {a : α}
      {row : Row types} (hv : field.CanBe a) (hrest : rest.CanBe row) :
      CanBe (.cons field rest) (a, row)

/-- Each value read so far is one that its field can have. -/
inductive Drafted : {types : List Type} → Fields types → Draft types → Prop
  | nil : Drafted .nil ()
  | cons {α : Type} {types : List Type} {field : Field α} {rest : Fields types}
      {cell : Option α} {draft : Draft types} (hcell : ∀ a ∈ cell, field.CanBe a)
      (hrest : rest.Drafted draft) : Drafted (.cons field rest) (cell, draft)

variable {types : List Type} {fields : Fields types} {s : Setting}

theorem blank_drafted (fields : Fields types) : fields.Drafted fields.blank := by
  induction fields with
  | nil => exact .nil
  | cons field rest ih => exact .cons (by simp) ih

theorem Drafted.place {draft placed : Draft types} (hdrafted : fields.Drafted draft)
    {key : String} {node : Node} (hplace : fields.place key s node draft = .ok (some placed)) :
    fields.Drafted placed := by
  induction hdrafted with
  | nil => simp [Fields.place] at hplace
  | @cons α types field rest cell draft hcell hrest ih =>
      simp only [Fields.place] at hplace
      by_cases hname : field.name = key
      · rw [if_pos hname] at hplace
        cases cell with
        | some earlier => simp [Setting.complain] at hplace
        | none =>
            obtain ⟨a, hdecode, heq⟩ := bind_eq_ok_iff.mp hplace
            cases heq
            refine .cons ?_ hrest
            rintro _ ⟨rfl⟩
            exact Or.inl ⟨_, _, hdecode⟩
      · rw [if_neg hname] at hplace
        obtain ⟨later, hlater, heq⟩ := bind_eq_ok_iff.mp hplace
        cases later with
        | none => cases heq
        | some later =>
            cases heq
            exact .cons hcell (ih hlater)

/-- The members of a mapping are read one after another. -/
theorem Drafted.readEntries {keepOthers : Bool} {entries : List (Node × Node)}
    {progress last : Progress types} (hdrafted : fields.Drafted progress.draft)
    (hread : fields.readEntries keepOthers s entries progress = .ok last) :
    fields.Drafted last.draft := by
  induction entries generalizing progress with
  | nil =>
      cases hread
      exact hdrafted
  | cons entry entries ih =>
      obtain ⟨key, node⟩ := entry
      obtain ⟨name, _, hread⟩ := bind_eq_ok_iff.mp hread
      obtain ⟨placed, hplace, hread⟩ := bind_eq_ok_iff.mp hread
      cases placed with
      | some draft => exact ih (hdrafted.place hplace) hread
      | none =>
          cases keepOthers with
          | true =>
              obtain ⟨kept, _, hread⟩ := bind_eq_ok_iff.mp hread
              refine ih ?_ hread
              exact hdrafted
          | false =>
              obtain ⟨_, _, hread⟩ := bind_eq_ok_iff.mp hread
              exact ih hdrafted hread

theorem Drafted.finish {draft : Draft types} {row : Row types} (hdrafted : fields.Drafted draft)
    (hfinish : fields.finish s draft = .ok row) : fields.CanBe row := by
  induction hdrafted with
  | nil => exact .nil
  | @cons α types field rest cell draft hcell hrest ih =>
      simp only [Fields.finish] at hfinish
      cases hvalue : cell.or field.default with
      | none => simp [hvalue, Setting.complain] at hfinish
      | some a =>
          rw [hvalue] at hfinish
          obtain ⟨more, hmore, heq⟩ := bind_eq_ok_iff.mp hfinish
          cases heq
          refine .cons ?_ (ih hmore)
          rcases Option.or_eq_some_iff.mp hvalue with hread | ⟨_, hdefault⟩
          · exact hcell a hread
          · exact Or.inr (Or.inl hdefault)

theorem canBe_of_readMapping {keepOthers : Bool} {entries : List (Node × Node)}
    {stop : Option Break} {row : Row types} {others : Json.Entries}
    (hread : fields.readMapping keepOthers s entries stop = .ok (row, others)) :
    fields.CanBe row := by
  obtain ⟨inner, _, hread⟩ := bind_eq_ok_iff.mp hread
  obtain ⟨progress, hprogress, hread⟩ := bind_eq_ok_iff.mp hread
  cases stop with
  | some b => simp [Setting.complain] at hread
  | none =>
      obtain ⟨last, hlast, heq⟩ := bind_eq_ok_iff.mp hread
      cases heq
      exact (fields.blank_drafted.readEntries (Setting.locate_eq_ok_iff.mp hprogress)).finish hlast

theorem canBe_of_readItems {title : String} {index : Nat} {items rest : List Node}
    {stop : Option Break} {row : Row types}
    (hread : fields.readItems s title index items stop = .ok (row, rest)) : fields.CanBe row := by
  induction fields generalizing index items with
  | nil => exact .nil
  | @cons α types field more ih =>
      cases items with
      | nil =>
          cases stop with
          | some b => simp [readItems, Setting.complain] at hread
          | none =>
              cases hdefault : field.listDefault with
              | none => simp [readItems, hdefault, Setting.complain] at hread
              | some a =>
                  simp only [readItems, hdefault] at hread
                  obtain ⟨⟨row, items⟩, hmore, heq⟩ := bind_eq_ok_iff.mp hread
                  cases heq
                  exact .cons (Or.inr (Or.inr hdefault)) (ih hmore)
      | cons item items =>
          simp only [readItems] at hread
          obtain ⟨a, hdecode, hread⟩ := bind_eq_ok_iff.mp hread
          obtain ⟨⟨row, items⟩, hmore, heq⟩ := bind_eq_ok_iff.mp hread
          cases heq
          exact .cons (Or.inl ⟨_, _, hdecode⟩) (ih hmore)

end Fields

/-- A record is built from values that its fields can have. -/
theorem exists_canBe_of_record {types : List Type} {fields : Fields types} {α : Type}
    {title : String} {build : Row types → α} {s : Setting} {node : Node} {a : α}
    (hrecord : record title fields build s node = .ok a) :
    ∃ row, fields.CanBe row ∧ build row = a := by
  unfold record at hrecord
  generalize s.resolve node = node at hrecord
  cases node with
  | mapping entries stop =>
      obtain ⟨⟨row, others⟩, hread, heq⟩ := bind_eq_ok_iff.mp hrecord
      cases heq
      exact ⟨row, Fields.canBe_of_readMapping hread, rfl⟩
  | sequence items stop =>
      by_cases hlists : s.dialect.recordsAsLists
      · simp only [hlists, if_true] at hrecord
        obtain ⟨inner, _, hrecord⟩ := bind_eq_ok_iff.mp hrecord
        obtain ⟨⟨row, rest⟩, hread, hrecord⟩ := bind_eq_ok_iff.mp hrecord
        cases rest with
        | cons item rest => simp [Setting.complain] at hrecord
        | nil =>
            cases stop with
            | some b => simp [Setting.complain] at hrecord
            | none =>
                cases hrecord
                exact ⟨row, Fields.canBe_of_readItems hread, rfl⟩
      · simp [hlists, unexpected, Setting.complain] at hrecord
  | scalar sc =>
      by_cases hempty : sc.isEmpty
      · simp only [hempty, if_true] at hrecord
        obtain ⟨⟨row, others⟩, hread, heq⟩ := bind_eq_ok_iff.mp hrecord
        cases heq
        exact ⟨row, Fields.canBe_of_readMapping hread, rfl⟩
      · cases hbroken : sc.broken <;>
          simp [hempty, unexpected, hbroken, Setting.complain] at hrecord
  | spoiled why => simp [unexpected, Setting.complain] at hrecord
  | aliasTo anchor => simp [unexpected, Setting.complain] at hrecord
  | broken stop => simp [unexpected, Setting.complain] at hrecord

end PolicyRollout.Document
