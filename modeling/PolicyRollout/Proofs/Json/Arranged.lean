import PolicyRollout.Json.Value
/-!
Values up to the order of members.  Arranging a value puts the members of every
object into the order of their names.  As long as no two members of an object
share a name nothing else is changed by it, so two values are the same but for the
order of members exactly if they are equal once they are arranged.
-/
namespace PolicyRollout.Json

def Entries.names (entries : Entries) : List String :=
  entries.map Prod.fst

/-- Members in increasing order of their names. -/
def Entries.Ordered (entries : Entries) : Prop :=
  entries.Pairwise fun e f => e.1 < f.1

namespace Entries

variable {entries others : Entries} {key : String} {value : Value}

theorem mem_insert {e : String × Value} (hmem : e ∈ insert key value entries) :
    e = (key, value) ∨ e ∈ entries := by
  induction entries with
  | nil => exact Or.inl (List.mem_singleton.mp hmem)
  | cons first rest ih =>
      obtain ⟨k, v⟩ := first
      unfold insert at hmem
      by_cases hlt : key < k
      · rw [if_pos hlt] at hmem
        exact List.mem_cons.mp hmem
      · by_cases heq : key = k
        · rw [if_neg hlt, if_pos heq] at hmem
          exact (List.mem_cons.mp hmem).imp_right (List.mem_cons_of_mem _)
        · rw [if_neg hlt, if_neg heq] at hmem
          rcases List.mem_cons.mp hmem with hfirst | hrest
          · exact Or.inr (hfirst ▸ List.mem_cons_self)
          · exact (ih hrest).imp_right (List.mem_cons_of_mem _)

theorem insert_perm (hfresh : key ∉ names entries) :
    (insert key value entries).Perm ((key, value) :: entries) := by
  induction entries with
  | nil => exact .refl _
  | cons first rest ih =>
      obtain ⟨k, v⟩ := first
      obtain ⟨hne, hrest⟩ := not_or.mp fun h => hfresh (List.mem_cons.mpr h)
      unfold insert
      by_cases hlt : key < k
      · rw [if_pos hlt]
      · rw [if_neg hlt, if_neg hne]
        exact ((ih hrest).cons _).trans (.swap ..)

theorem insert_ordered (hordered : Ordered entries) : Ordered (insert key value entries) := by
  induction entries with
  | nil => exact List.pairwise_singleton ..
  | cons first rest ih =>
      obtain ⟨k, v⟩ := first
      obtain ⟨hfirst, hrest⟩ := List.pairwise_cons.mp hordered
      unfold insert
      by_cases hlt : key < k
      · rw [if_pos hlt]
        apply List.pairwise_cons.mpr
        refine ⟨fun e he => ?_, hordered⟩
        rcases List.mem_cons.mp he with rfl | he
        · exact hlt
        · exact String.lt_trans hlt (hfirst e he)
      · by_cases heq : key = k
        · rw [if_neg hlt, if_pos heq]
          exact List.pairwise_cons.mpr ⟨heq ▸ hfirst, hrest⟩
        · rw [if_neg hlt, if_neg heq]
          apply List.pairwise_cons.mpr
          refine ⟨fun e he => ?_, ih hrest⟩
          rcases mem_insert he with rfl | he
          · exact Std.lt_of_le_of_ne (String.not_lt.mp hlt) (Ne.symm heq)
          · exact hfirst e he

theorem foldl_insert_perm (hnames : (names entries).Nodup)
    (hfresh : ∀ name ∈ names entries, name ∉ names others) :
    (entries.foldl (fun acc e => insert e.1 e.2 acc) others).Perm (entries ++ others) := by
  induction entries generalizing others with
  | nil => exact .refl _
  | cons first rest ih =>
      obtain ⟨hfirst, hrest⟩ := List.nodup_cons.mp hnames
      have hinsert := @insert_perm _ _ first.2 (hfresh first.1 List.mem_cons_self)
      have hnext := @ih (insert first.1 first.2 others) hrest fun name hname => by
        have hmem := (hinsert.map Prod.fst).mem_iff (a := name)
        intro hin
        rcases List.mem_cons.mp (hmem.mp hin) with rfl | hold
        · exact hfirst hname
        · exact hfresh name (List.mem_cons_of_mem _ hname) hold
      exact hnext.trans ((hinsert.append_left rest).trans List.perm_middle)

theorem foldl_insert_ordered (hordered : Ordered others) :
    Ordered (entries.foldl (fun acc e => insert e.1 e.2 acc) others) := by
  induction entries generalizing others with
  | nil => exact hordered
  | cons first rest ih => exact ih (insert_ordered hordered)

theorem sorted_ordered (entries : Entries) : Ordered entries.sorted :=
  foldl_insert_ordered .nil

/-- Members of different names are only put into another order. -/
theorem sorted_perm (hnames : (names entries).Nodup) : entries.sorted.Perm entries := by
  have hperm := @foldl_insert_perm _ [] hnames (by simp [names])
  rwa [List.append_nil] at hperm

theorem Ordered.names_nodup (hordered : Ordered entries) : (names entries).Nodup := by
  rw [names, List.Nodup, List.pairwise_map]
  apply hordered.imp
  intro e f hlt heq
  rw [heq] at hlt
  exact String.lt_irrefl _ hlt

/-- There is one order of members. -/
theorem Ordered.eq_of_perm (hordered : Ordered entries) (hothers : Ordered others)
    (hperm : entries.Perm others) : entries = others := by
  apply hperm.eq_of_pairwise _ hordered hothers
  intro e f _ _ hlt hgt
  exact absurd hgt (String.lt_asymm hlt)

theorem Ordered.sorted_eq_of_perm (hordered : Ordered others) (hperm : entries.Perm others) :
    entries.sorted = others := by
  have hnames : (names entries).Nodup := (hperm.map Prod.fst).nodup_iff.mpr hordered.names_nodup
  exact (sorted_ordered entries).eq_of_perm hordered ((sorted_perm hnames).trans hperm)

theorem sorted_eq_of_perm (hnames : (names entries).Nodup) (hperm : entries.Perm others) :
    entries.sorted = others.sorted := by
  have hothers : (names others).Nodup := (hperm.map Prod.fst).nodup_iff.mp hnames
  exact (sorted_ordered others).sorted_eq_of_perm (hperm.trans (sorted_perm hothers).symm)

end Entries

mutual

/-- A value with the members of every object in the order of their names. -/
def Value.arranged : Value → Value
  | .array items => .array (arrangedItems items)
  | .object entries => .object (arrangedEntries entries).sorted
  | v => v

def arrangedItems : List Value → List Value
  | [] => []
  | item :: items => item.arranged :: arrangedItems items

def arrangedEntries : Entries → Entries
  | [] => []
  | (key, value) :: entries => (key, value.arranged) :: arrangedEntries entries

end

mutual

/-- How many collections stand inside one another. -/
def Value.depth : Value → Nat
  | .array items => itemsDepth items + 1
  | .object entries => entriesDepth entries + 1
  | _ => 0

def itemsDepth : List Value → Nat
  | [] => 0
  | item :: items => max item.depth (itemsDepth items)

def entriesDepth : Entries → Nat
  | [] => 0
  | (_, value) :: entries => max value.depth (entriesDepth entries)

end

/-- A value as it is held: no two members of an object share a name, and zero is no
negative integer. -/
inductive Value.WellFormed : Value → Prop
  | null : WellFormed .null
  | bool (b : Bool) : WellFormed (.bool b)
  | number {n : Number} (hn : n ≠ .negative 0) : WellFormed (.number n)
  | string (s : String) : WellFormed (.string s)
  | array {items : List Value} (hitems : ∀ v ∈ items, WellFormed v) : WellFormed (.array items)
  | object {entries : Entries} (hnames : entries.names.Nodup)
      (hentries : ∀ e ∈ entries, WellFormed e.2) : WellFormed (.object entries)

theorem arrangedItems_eq_map (items : List Value) :
    arrangedItems items = items.map Value.arranged := by
  induction items with
  | nil => rfl
  | cons item items ih => rw [arrangedItems, ih, List.map_cons]

theorem arrangedEntries_eq_map (entries : Entries) :
    arrangedEntries entries = entries.map fun e => (e.1, e.2.arranged) := by
  induction entries with
  | nil => rfl
  | cons e entries ih => rw [arrangedEntries, ih, List.map_cons]

@[simp]
theorem names_arrangedEntries (entries : Entries) :
    (arrangedEntries entries).names = entries.names := by
  rw [arrangedEntries_eq_map, Entries.names, Entries.names, List.map_map]
  rfl

theorem arrangedEntries_perm {entries others : Entries} (hperm : entries.Perm others) :
    (arrangedEntries entries).Perm (arrangedEntries others) := by
  rw [arrangedEntries_eq_map, arrangedEntries_eq_map]
  exact hperm.map _

theorem arrangedEntries_append (entries others : Entries) :
    arrangedEntries (entries ++ others) = arrangedEntries entries ++ arrangedEntries others := by
  simp only [arrangedEntries_eq_map, List.map_append]

theorem arranged_object_of_perm {entries others : Entries} (hnames : entries.names.Nodup)
    (hperm : (arrangedEntries entries).Perm (arrangedEntries others)) :
    (Value.object entries).arranged = (Value.object others).arranged := by
  rw [← names_arrangedEntries] at hnames
  rw [Value.arranged, Value.arranged, Entries.sorted_eq_of_perm hnames hperm]

/-- Objects are arranged alike exactly if their members are the same, once these are
arranged, in whatever order. -/
theorem arranged_object_eq_iff {entries others : Entries} (hnames : entries.names.Nodup)
    (hothers : others.names.Nodup) :
    (Value.object entries).arranged = (Value.object others).arranged ↔
      (arrangedEntries entries).Perm (arrangedEntries others) := by
  constructor
  · intro heq
    rw [← names_arrangedEntries] at hnames hothers
    rw [Value.arranged, Value.arranged, Value.object.injEq] at heq
    have hperm := (Entries.sorted_perm hnames).symm
    rw [heq] at hperm
    exact hperm.trans (Entries.sorted_perm hothers)
  · exact arranged_object_of_perm hnames

/-- What is arranged stays as it is. -/
theorem Value.WellFormed.arranged_arranged {v : Value} (hv : v.WellFormed) :
    v.arranged.arranged = v.arranged := by
  induction hv with
  | null => rfl
  | bool b => rfl
  | number hn => rfl
  | string s => rfl
  | @array items hitems ih =>
      rw [arranged, arranged, arrangedItems_eq_map, arrangedItems_eq_map, List.map_map]
      apply congrArg Value.array
      exact List.map_congr_left ih
  | @object entries hnames hentries ih =>
      have hagain : arrangedEntries (arrangedEntries entries) = arrangedEntries entries := by
        rw [arrangedEntries_eq_map entries, arrangedEntries_eq_map, List.map_map]
        exact List.map_congr_left fun e he => Prod.ext rfl (ih e he)
      have harranged : (arrangedEntries entries).names.Nodup := by rwa [names_arrangedEntries]
      have hperm := arrangedEntries_perm (Entries.sorted_perm harranged)
      rw [hagain] at hperm
      rw [arranged, arranged]
      apply congrArg Value.object
      exact Entries.sorted_eq_of_perm (by simpa using (Entries.sorted_ordered _).names_nodup) hperm

theorem Value.WellFormed.arranged {v : Value} (hv : v.WellFormed) : v.arranged.WellFormed := by
  induction hv with
  | null => exact .null
  | bool b => exact .bool b
  | number hn => exact .number hn
  | string s => exact .string s
  | array hitems ih =>
      rw [Value.arranged, arrangedItems_eq_map]
      apply WellFormed.array
      intro v hv
      obtain ⟨item, hitem, rfl⟩ := List.mem_map.mp hv
      exact ih item hitem
  | @object entries hnames hentries ih =>
      have harranged : (arrangedEntries entries).names.Nodup := by rwa [names_arrangedEntries]
      rw [Value.arranged]
      apply WellFormed.object (Entries.sorted_ordered _).names_nodup
      intro e he
      rw [(Entries.sorted_perm harranged).mem_iff, arrangedEntries_eq_map] at he
      obtain ⟨member, hmember, rfl⟩ := List.mem_map.mp he
      exact ih member hmember

end PolicyRollout.Json
