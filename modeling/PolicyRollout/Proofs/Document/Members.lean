import PolicyRollout.Document.Record
import PolicyRollout.Proofs.Json.Arranged
/-!
How a record takes its fields from the members of an object.  When no two members
share a name their order does not matter: every field takes the member of its name,
if there is one, and the members that no field takes are left over.
-/
namespace PolicyRollout.Document

open Json (Entries Value arrangedEntries arrangedItems)

mutual

/-- A value can always be passed over. -/
theorem pass_ofValue (s : Setting) : (v : Value) → pass s (.ofValue v) = .ok ()
  | .null | .bool _ | .number _ | .string _ => rfl
  | .array items => by
      rw [Node.ofValue, pass, passItems_ofItems s items]
      rfl
  | .object entries => by
      rw [Node.ofValue, pass, passEntries_ofEntries s entries]
      rfl

theorem passItems_ofItems (s : Setting) : (items : List Value) →
    passItems s (Node.ofItems items) = .ok ()
  | [] => rfl
  | item :: items => by
      rw [Node.ofItems, passItems, pass_ofValue s item]
      exact passItems_ofItems s items

theorem passEntries_ofEntries (s : Setting) : (entries : Entries) →
    passEntries s (Node.ofEntries entries) = .ok ()
  | [] => rfl
  | (key, v) :: entries => by
      have hkey : pass s (.text key) = .ok () := rfl
      rw [Node.ofEntries, passEntries, hkey, pass_ofValue s v]
      exact passEntries_ofEntries s entries

end

theorem map_eq_ok_iff {ε α β : Type} {result : Except ε α} {f : α → β} {b : β} :
    result.map f = .ok b ↔ ∃ a, result = .ok a ∧ f a = b := by
  cases result with
  | error e => simp [Except.map]
  | ok a => simp [Except.map]

/-- What a field takes: the member of its name, which it decodes, or no member. -/
inductive Field.Taken {α : Type} (s : Setting) (field : Field α) : Entries → Option α → Prop
  | present {v : Value} {a : α}
      (hdecode : field.decode (s.step (.member field.name)) (.ofValue v) = .ok a) :
      Taken s field [(field.name, v)] (some a)
  | absent : Taken s field [] none

namespace Fields

/-- The names of the fields of a record. -/
def names : {types : List Type} → Fields types → List String
  | _, .nil => []
  | _, .cons field rest => field.name :: rest.names

/-- Every field has taken the member of its name, and some members are left over. -/
inductive Took (s : Setting) :
    {types : List Type} → Fields types → Entries → Draft types → (left : Entries) → Prop
  | nil {entries left : Entries} (hperm : entries.Perm left) : Took s .nil entries () left
  | cons {α : Type} {types : List Type} {field : Field α} {rest : Fields types}
      {cell : Option α} {taken entries others left : Entries} {draft : Draft types}
      (htaken : field.Taken s taken cell) (hperm : entries.Perm (taken ++ others))
      (hothers : ∀ e ∈ others, e.1 ≠ field.name) (hrest : Took s rest others draft left) :
      Took s (.cons field rest) entries (cell, draft) left

variable {types : List Type} {fields : Fields types} {s : Setting} {entries others left : Entries}
  {draft : Draft types}

theorem Took.perm (htook : fields.Took s entries draft left) (hperm : others.Perm entries) :
    fields.Took s others draft left := by
  cases htook with
  | nil hleft => exact .nil (hperm.trans hleft)
  | cons htaken hmember hothers hrest =>
      exact .cons htaken (hperm.trans hmember) hothers hrest

theorem Took.left_subset (htook : fields.Took s entries draft left) : left ⊆ entries := by
  induction htook with
  | nil hleft => exact hleft.symm.subset
  | cons htaken hmember hothers hrest ih =>
      intro e he
      exact hmember.mem_iff.mpr (List.mem_append_right _ (ih he))

theorem Took.left_names_nodup (htook : fields.Took s entries draft left)
    (hnames : entries.names.Nodup) : left.names.Nodup := by
  induction htook with
  | nil hleft => exact (hleft.map Prod.fst).nodup hnames
  | cons htaken hmember hothers hrest ih =>
      have hboth := (hmember.map Prod.fst).nodup hnames
      rw [List.map_append] at hboth
      exact ih (List.nodup_append.mp hboth).2.1

/-- No field has the name of a member that is left over. -/
theorem Took.left_fresh (htook : fields.Took s entries draft left) :
    ∀ e ∈ left, e.1 ∉ fields.names := by
  induction htook with
  | nil hleft => exact fun e _ => List.not_mem_nil
  | cons htaken hmember hothers hrest ih =>
      intro e he hname
      rcases List.mem_cons.mp hname with hfirst | hmore
      · exact hothers e (hrest.left_subset he) hfirst
      · exact ih e he hmore

theorem took_cons_present_iff {α : Type} {field : Field α} {rest : Fields types} {v : Value}
    {cell : Option α} (hperm : entries.Perm ((field.name, v) :: others))
    (hothers : ∀ e ∈ others, e.1 ≠ field.name) :
    Took s (.cons field rest) entries (cell, draft) left ↔
      ∃ a, cell = some a ∧ field.decode (s.step (.member field.name)) (.ofValue v) = .ok a ∧
        rest.Took s others draft left := by
  constructor
  · intro htook
    cases htook with
    | cons htaken hmember hmore hrest =>
        have hswap := hperm.symm.trans hmember
        cases htaken with
        | @present w a hdecode =>
            rcases List.mem_cons.mp (hswap.mem_iff.mpr List.mem_cons_self) with heq | hin
            · obtain rfl := (Prod.mk.inj heq).2
              exact ⟨a, rfl, hdecode, hrest.perm hswap.cons_inv⟩
            · exact absurd rfl (hothers _ hin)
        | absent => exact absurd rfl (hmore _ (hswap.mem_iff.mp List.mem_cons_self))
  · rintro ⟨a, rfl, hdecode, hrest⟩
    exact .cons (.present hdecode) hperm hothers hrest

theorem took_cons_absent_iff {α : Type} {field : Field α} {rest : Fields types}
    {cell : Option α} (hne : ∀ e ∈ entries, e.1 ≠ field.name) :
    Took s (.cons field rest) entries (cell, draft) left ↔
      cell = none ∧ rest.Took s entries draft left := by
  constructor
  · intro htook
    cases htook with
    | cons htaken hmember hmore hrest =>
        cases htaken with
        | present hdecode => exact absurd rfl (hne _ (hmember.mem_iff.mpr List.mem_cons_self))
        | absent => exact ⟨rfl, hrest.perm hmember⟩
  · rintro ⟨rfl, hrest⟩
    exact .cons .absent (.refl _) hne hrest

/-- Members of other names leave the first field alone. -/
theorem readEntries_cons {α : Type} {field : Field α} (rest : Fields types)
    (hne : ∀ e ∈ entries, e.1 ≠ field.name) (keepOthers : Bool) (s : Setting) (cell : Option α)
    (progress : Progress types) :
    (Fields.cons field rest).readEntries keepOthers s (Node.ofEntries entries)
        ⟨(cell, progress.draft), progress.others⟩ =
      (rest.readEntries keepOthers s (Node.ofEntries entries) progress).map fun p =>
        ⟨(cell, p.draft), p.others⟩ := by
  induction entries generalizing progress with
  | nil => rfl
  | cons e entries ih =>
      obtain ⟨key, v⟩ := e
      have hkey : field.name ≠ key := (hne _ List.mem_cons_self).symm
      have hmore : ∀ e ∈ entries, e.1 ≠ field.name := fun e he =>
        hne e (List.mem_cons_of_mem _ he)
      have hname : textAs "field identifier" s (Node.text key) = .ok key := rfl
      rw [Node.ofEntries, readEntries, readEntries, hname]
      simp only [bind, Except.bind, place, hkey, if_false]
      cases hplace : rest.place key s (Node.ofValue v) progress.draft with
      | error c => rfl
      | ok placed =>
          cases placed with
          | some draft =>
              exact ih hmore ⟨draft, progress.others⟩
          | none =>
              cases keepOthers with
              | false =>
                  cases pass s (Node.ofValue v) with
                  | error c => rfl
                  | ok _ => exact ih hmore progress
              | true =>
                  cases freeForm (s.step (.member key)) (Node.ofValue v) with
                  | error c => rfl
                  | ok kept => exact ih hmore ⟨progress.draft, progress.others.insert key kept⟩

theorem readEntries_append (keepOthers : Bool) (s : Setting) (front back : Entries)
    (progress : Progress types) :
    fields.readEntries keepOthers s (Node.ofEntries (front ++ back)) progress =
      (fields.readEntries keepOthers s (Node.ofEntries front) progress).bind
        (fields.readEntries keepOthers s (Node.ofEntries back)) := by
  induction front generalizing progress with
  | nil => rfl
  | cons e front ih =>
      obtain ⟨key, v⟩ := e
      have hname : textAs "field identifier" s (Node.text key) = .ok key := rfl
      rw [List.cons_append, Node.ofEntries, Node.ofEntries, readEntries, readEntries, hname]
      simp only [bind, Except.bind]
      cases fields.place key s (Node.ofValue v) progress.draft with
      | error c => rfl
      | ok placed =>
          cases placed with
          | some draft => exact ih ⟨draft, progress.others⟩
          | none =>
              cases keepOthers with
              | false =>
                  cases pass s (Node.ofValue v) with
                  | error c => rfl
                  | ok _ => exact ih progress
              | true =>
                  cases freeForm (s.step (.member key)) (Node.ofValue v) with
                  | error c => rfl
                  | ok kept => exact ih ⟨progress.draft, progress.others.insert key kept⟩

/-- The first field takes the member of its name. -/
theorem readEntries_member {α : Type} (field : Field α) (rest : Fields types) (v : Value)
    (keepOthers : Bool) (s : Setting) (entries : Entries) (progress : Progress types) :
    (Fields.cons field rest).readEntries keepOthers s
        (Node.ofEntries ((field.name, v) :: entries)) ⟨(none, progress.draft), progress.others⟩ =
      (field.decode (s.step (.member field.name)) (.ofValue v)).bind fun a =>
        (Fields.cons field rest).readEntries keepOthers s (Node.ofEntries entries)
          ⟨(some a, progress.draft), progress.others⟩ := by
  have hname : textAs "field identifier" s (Node.text field.name) = .ok field.name := rfl
  rw [Node.ofEntries, readEntries, hname]
  simp only [bind, Except.bind, place, if_true]
  cases field.decode (s.step (.member field.name)) (.ofValue v) <;> rfl

/-- It takes it wherever it stands. -/
theorem readEntries_cut {α : Type} {field : Field α} {rest : Fields types} {front back : Entries}
    {v : Value} (hfront : ∀ e ∈ front, e.1 ≠ field.name) (hback : ∀ e ∈ back, e.1 ≠ field.name)
    (keepOthers : Bool) (progress : Progress types) {result : Progress (α :: types)} :
    (Fields.cons field rest).readEntries keepOthers s
        (Node.ofEntries (front ++ (field.name, v) :: back))
        ⟨(none, progress.draft), progress.others⟩ = .ok result ↔
      ∃ a p, field.decode (s.step (.member field.name)) (.ofValue v) = .ok a ∧
        rest.readEntries keepOthers s (Node.ofEntries (front ++ back)) progress = .ok p ∧
        result = ⟨(some a, p.draft), p.others⟩ := by
  rw [readEntries_append, readEntries_append, readEntries_cons rest hfront]
  cases rest.readEntries keepOthers s (Node.ofEntries front) progress with
  | error c => simp [Except.bind, Except.map]
  | ok q =>
      have hmember := readEntries_member field rest v keepOthers s back q
      simp only [Except.bind, Except.map, hmember]
      cases field.decode (s.step (.member field.name)) (.ofValue v) with
      | error c => simp
      | ok a =>
          have hmore := readEntries_cons rest hback keepOthers s (some a) q
          simp only [hmore]
          cases rest.readEntries keepOthers s (Node.ofEntries back) q with
          | error c => simp [Except.map]
          | ok p => simp [Except.map, eq_comm]

/-- What is kept of members that no field has taken. -/
def leftover (keepOthers : Bool) (left : Entries) : Entries :=
  if keepOthers then (arrangedEntries left).sorted else []

theorem leftover_of_perm (keepOthers : Bool) (hnames : left.names.Nodup)
    (hperm : left.Perm others) : leftover keepOthers left = leftover keepOthers others := by
  unfold leftover
  by_cases hkeep : keepOthers = true
  · rw [if_pos hkeep, if_pos hkeep]
    apply Entries.sorted_eq_of_perm _ (Json.arrangedEntries_perm hperm)
    rwa [Json.names_arrangedEntries]
  · rw [if_neg hkeep, if_neg hkeep]

/-- A record without fields leaves all members over. -/
theorem nil_readEntries (keepOthers : Bool)
    (hkept : keepOthers = true → ∀ e ∈ entries,
      freeForm (s.step (.member e.1)) (.ofValue e.2) = .ok e.2.arranged) (kept : Entries) :
    Fields.nil.readEntries keepOthers s (Node.ofEntries entries) ⟨(), kept⟩ =
      .ok ⟨(), if keepOthers then
        (arrangedEntries entries).foldl (fun acc e => Entries.insert e.1 e.2 acc) kept
        else kept⟩ := by
  induction entries generalizing kept with
  | nil => cases keepOthers <;> rfl
  | cons e entries ih =>
      obtain ⟨key, v⟩ := e
      have hname : textAs "field identifier" s (Node.text key) = .ok key := rfl
      have hmore := fun hkeep e he => hkept hkeep e (List.mem_cons_of_mem _ he)
      rw [Node.ofEntries, readEntries, hname]
      simp only [bind, Except.bind, place]
      cases keepOthers with
      | false =>
          simp only [pass_ofValue]
          exact ih hmore kept
      | true =>
          simp only [if_true, hkept rfl _ List.mem_cons_self]
          exact ih hmore (kept.insert key v.arranged)

/-- Reading an object comes to a draft exactly if every field takes its member. -/
theorem readEntries_eq_ok_iff (keepOthers : Bool) (hnames : entries.names.Nodup)
    (hkept : keepOthers = true → ∀ e ∈ entries,
      freeForm (s.step (.member e.1)) (.ofValue e.2) = .ok e.2.arranged)
    (progress : Progress types) :
    fields.readEntries keepOthers s (Node.ofEntries entries) ⟨fields.blank, []⟩ = .ok progress ↔
      ∃ left, fields.Took s entries progress.draft left ∧
        progress.others = leftover keepOthers left := by
  induction fields generalizing entries with
  | nil =>
      rw [blank, nil_readEntries keepOthers hkept]
      constructor
      · intro hread
        obtain rfl := Except.ok.inj hread
        exact ⟨entries, .nil (.refl _), rfl⟩
      · rintro ⟨left, ⟨hperm⟩, hothers⟩
        rw [← leftover_of_perm keepOthers hnames hperm] at hothers
        obtain ⟨draft, kept⟩ := progress
        obtain rfl : kept = leftover keepOthers entries := hothers
        rfl
  | @cons α types field rest ih =>
      obtain ⟨⟨cell, draft⟩, kept⟩ := progress
      by_cases hmember : ∃ v, (field.name, v) ∈ entries
      · obtain ⟨v, hv⟩ := hmember
        obtain ⟨front, back, rfl⟩ := List.append_of_mem hv
        have hmiddle : (front ++ (field.name, v) :: back).Perm
            ((field.name, v) :: (front ++ back)) := List.perm_middle
        obtain ⟨hfresh, hrestnames⟩ := List.nodup_cons.mp ((hmiddle.map Prod.fst).nodup hnames)
        have hothers : ∀ e ∈ front ++ back, e.1 ≠ field.name := by
          intro e he heq
          have hname : e.1 ∈ (front ++ back).map Prod.fst := List.mem_map_of_mem he
          rw [heq] at hname
          exact hfresh hname
        have hrest := ih hrestnames fun hkeep e he =>
          hkept hkeep e (hmiddle.mem_iff.mpr (List.mem_cons_of_mem _ he))
        simp only [took_cons_present_iff hmiddle hothers]
        rw [blank, readEntries_cut (fun e he => hothers e (List.mem_append_left _ he))
          (fun e he => hothers e (List.mem_append_right _ he)) keepOthers ⟨rest.blank, []⟩]
        constructor
        · rintro ⟨a, p, hdecode, hread, heq⟩
          obtain ⟨left, htook, hleft⟩ := (hrest p).mp hread
          cases heq
          exact ⟨left, ⟨a, rfl, hdecode, htook⟩, hleft⟩
        · rintro ⟨left, ⟨a, rfl, hdecode, htook⟩, hleft⟩
          exact ⟨a, ⟨draft, kept⟩, hdecode, (hrest ⟨draft, kept⟩).mpr ⟨left, htook, hleft⟩, rfl⟩
      · have hne : ∀ e ∈ entries, e.1 ≠ field.name := by
          rintro ⟨name, v⟩ he rfl
          exact hmember ⟨v, he⟩
        have hrest := ih hnames hkept
        have hcons := readEntries_cons rest hne keepOthers s none ⟨rest.blank, []⟩
        simp only [took_cons_absent_iff hne]
        rw [blank, hcons, map_eq_ok_iff]
        constructor
        · rintro ⟨p, hread, heq⟩
          obtain ⟨left, htook, hleft⟩ := (hrest p).mp hread
          cases heq
          exact ⟨left, ⟨rfl, htook⟩, hleft⟩
        · rintro ⟨left, ⟨rfl, htook⟩, hleft⟩
          exact ⟨⟨draft, kept⟩, (hrest ⟨draft, kept⟩).mpr ⟨left, htook, hleft⟩, rfl⟩

end Fields

end PolicyRollout.Document
