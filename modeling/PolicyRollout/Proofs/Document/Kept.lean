import PolicyRollout.Proofs.Document.Conveyed
/-!
Values that are kept as they are.  A decoder of any value keeps the members of
objects in the order of their names and changes nothing else, and a record that keeps
the members it does not know keeps each of them in this way.
-/
namespace PolicyRollout

namespace Json

theorem depth_le_itemsDepth {item : Value} {items : List Value} (hitem : item ∈ items) :
    item.depth ≤ itemsDepth items := by
  induction items with
  | nil => cases hitem
  | cons first rest ih =>
      rcases List.mem_cons.mp hitem with rfl | hrest
      · exact Nat.le_max_left ..
      · exact Nat.le_trans (ih hrest) (Nat.le_max_right ..)

theorem depth_le_entriesDepth {e : String × Value} {entries : Entries} (he : e ∈ entries) :
    e.2.depth ≤ entriesDepth entries := by
  induction entries with
  | nil => cases he
  | cons first rest ih =>
      rcases List.mem_cons.mp he with rfl | hrest
      · exact Nat.le_max_left ..
      · exact Nat.le_trans (ih hrest) (Nat.le_max_right ..)

/-- A value that arranging does not change. -/
structure Value.Settled (v : Value) : Prop where
  wellFormed : v.WellFormed
  arranged_eq : v.arranged = v

theorem Value.WellFormed.settled {v : Value} (hv : v.WellFormed) : v.arranged.Settled :=
  ⟨hv.arranged, hv.arranged_arranged⟩

theorem Value.WellFormed.names_nodup {entries : Entries} (hv : (Value.object entries).WellFormed) :
    entries.names.Nodup := by
  cases hv with
  | object hnames _ => exact hnames

/-- The members of an object as it is kept. -/
theorem Value.WellFormed.arrangedEntries_sorted_perm {entries : Entries}
    (hv : (Value.object entries).WellFormed) :
    (arrangedEntries (arrangedEntries entries).sorted).Perm (arrangedEntries entries) := by
  have hkept : (arrangedEntries entries).sorted.names.Nodup :=
    (Entries.sorted_ordered _).names_nodup
  exact (arranged_object_eq_iff hkept hv.names_nodup).mp hv.arranged_arranged

theorem Value.WellFormed.mem_names_sorted {entries : Entries}
    (hv : (Value.object entries).WellFormed) {name : String} :
    name ∈ (arrangedEntries entries).sorted.names ↔ name ∈ entries.names := by
  have hnames : (arrangedEntries entries).names.Nodup := by
    rw [names_arrangedEntries]
    exact hv.names_nodup
  rw [← names_arrangedEntries entries]
  exact ((Entries.sorted_perm hnames).map Prod.fst).mem_iff

theorem Value.WellFormed.entry {entries : Entries} (hv : (Value.object entries).WellFormed)
    {e : String × Value} (he : e ∈ entries) : e.2.WellFormed := by
  cases hv with
  | object _ hentries => exact hentries e he

theorem Value.WellFormed.item {items : List Value} (hv : (Value.array items).WellFormed)
    {v : Value} (hitem : v ∈ items) : v.WellFormed := by
  cases hv with
  | array hitems => exact hitems v hitem

end Json

namespace Document

open Json (Entries Value arrangedEntries arrangedItems itemsDepth entriesDepth)

theorem Setting.Roomy.mono {room more : Nat} {s : Setting} (hs : s.Roomy more)
    (hle : room ≤ more) : s.Roomy room :=
  fun depth hdepth => Nat.le_trans hle (hs depth hdepth)

theorem freeFormItems_ofItems {s : Setting} {items : List Value}
    (hitems : ∀ v ∈ items, freeForm s (.ofValue v) = .ok v.arranged) :
    freeFormItems s (Node.ofItems items) = .ok (arrangedItems items) := by
  induction items with
  | nil => rfl
  | cons v items ih =>
      have hrest := ih fun w hw => hitems w (List.mem_cons_of_mem _ hw)
      rw [Node.ofItems, freeFormItems, hitems v List.mem_cons_self]
      simp only [bind, Except.bind, hrest]
      rfl

theorem freeFormEntries_ofEntries {s : Setting} {entries : Entries}
    (hentries : ∀ e ∈ entries, freeForm s (.ofValue e.2) = .ok e.2.arranged) (kept : Entries) :
    freeFormEntries s (Node.ofEntries entries) kept =
      .ok ((arrangedEntries entries).foldl (fun acc e => Entries.insert e.1 e.2 acc) kept) := by
  induction entries generalizing kept with
  | nil => rfl
  | cons e entries ih =>
      obtain ⟨key, v⟩ := e
      have hrest := ih fun f hf => hentries f (List.mem_cons_of_mem _ hf)
      have hkey : text s (Node.text key) = .ok key := rfl
      rw [Node.ofEntries, freeFormEntries, hkey, hentries _ List.mem_cons_self]
      exact hrest _

/-- Any value is kept, arranged. -/
theorem freeForm_ofValue {v : Value} (hv : v.WellFormed) {s : Setting} (hs : s.Roomy v.depth) :
    freeForm s (.ofValue v) = .ok v.arranged := by
  induction hv generalizing s with
  | null => rfl
  | bool b => rfl
  | string t => rfl
  | @number n hn =>
      cases n with
      | natural n => rfl
      | float x => rfl
      | negative n =>
          have hpos : n ≠ 0 := fun h => hn (h ▸ rfl)
          simp [freeForm, Node.ofValue, Scalar.of, foundNumber, Found.value?, hpos, Value.arranged]
  | @array items hitems ih =>
      obtain ⟨inner, hinner, hroomy⟩ := hs.enter
      have hread := freeFormItems_ofItems (s := inner) fun v hv =>
        ih v hv (hroomy.mono (Json.depth_le_itemsDepth hv))
      rw [Node.ofValue, freeForm, hinner]
      simp only [bind, Except.bind, hread]
      rfl
  | @object entries hnames hentries ih =>
      obtain ⟨inner, hinner, hroomy⟩ := hs.enter
      have hread := freeFormEntries_ofEntries (s := inner) (fun e he =>
        ih e he (hroomy.mono (Json.depth_le_entriesDepth he))) []
      rw [Node.ofValue, freeForm, hinner]
      simp only [bind, Except.bind, hread]
      rfl

theorem Conveys.value {v : Value} (hv : v.WellFormed) (hexact : v.Exact) :
    Conveys Document.value v.depth v v.arranged where
  exact := hexact
  decodes := freeForm_ofValue hv

/-- The text of a value is the text of that value only, but for the order of members. -/
theorem parse?_text {v : Value} (hv : v.WellFormed) (hexact : v.Exact)
    (hdepth : v.depth ≤ Json.maxDepth) : Json.parse? v.text = some v.arranged := by
  rw [Json.parse?, (Conveys.value hv hexact).decode_text hdepth]
  rfl

/-- Any number of collections may be opened inside one another. -/
def Setting.Unbounded (s : Setting) : Prop :=
  s.depth = none

theorem Setting.Unbounded.step {s : Setting} (hs : s.Unbounded) (step : Step) :
    (s.step step).Unbounded :=
  hs

theorem Setting.Unbounded.enter {s : Setting} (hs : s.Unbounded) : s.enter = .ok s := by
  rw [Setting.enter, hs]

theorem Setting.Unbounded.roomy {s : Setting} (hs : s.Unbounded) (room : Nat) :
    s.Roomy room := by
  intro depth hdepth
  rw [hs] at hdepth
  cases hdepth

section

variable {α : Type} {s : Setting} {v : Value}

/-- Null is absent, and any other value is decoded. -/
theorem optional_ofValue_eq_ok_iff {decode : Decoder α} {o : Option α} :
    optional decode s (.ofValue v) = .ok o ↔
      v = .null ∧ o = none ∨ v ≠ .null ∧ ∃ a, decode s (.ofValue v) = .ok a ∧ o = some a := by
  by_cases hnull : v = .null
  · subst hnull
    have habsent : optional decode s (.ofValue .null) = .ok none := rfl
    simp [habsent, eq_comm]
  · have hpresent : optional decode s (.ofValue v) = (decode s (.ofValue v)).map some := by
      simp only [optional, resolve_ofValue]
      cases hnode : Node.ofValue v with
      | scalar sc =>
          simp only [presence_ofValue hnull hnode]
          rfl
      | _ => rfl
    rw [hpresent, map_eq_ok_iff]
    simp [hnull, eq_comm]

theorem decodeItems_value {items : List Value} (hitems : ∀ v ∈ items, v.WellFormed)
    (hs : s.Unbounded) (index : Nat) :
    decodeItems value s index (Node.ofItems items) = .ok (arrangedItems items) := by
  induction items generalizing index with
  | nil => rfl
  | cons v items ih =>
      have hfirst : value (s.step (.item index)) (.ofValue v) = .ok v.arranged :=
        freeForm_ofValue (hitems v List.mem_cons_self) ((hs.step _).roomy v.depth)
      have hrest := ih (fun w hw => hitems w (List.mem_cons_of_mem _ hw)) (index + 1)
      rw [Node.ofItems, decodeItems, hfirst]
      simp only [bind, Except.bind, hrest]
      rfl

/-- A list of any values is kept, arranged, and nothing else is such a list. -/
theorem list_value_ofValue_eq_ok_iff (hv : v.WellFormed) (hs : s.Unbounded)
    {values : List Value} :
    list value s (.ofValue v) = .ok values ↔ v.arranged = .array values := by
  simp only [list, resolve_ofValue]
  cases v with
  | array items =>
      have hread := decodeItems_value (fun v hitem => hv.item hitem) hs 0
      simp only [Node.ofValue, hs.enter, bind, Except.bind, hread, Setting.locate]
      simp [pure, Except.pure, Value.arranged]
  | object entries => simp [Node.ofValue, unexpected, Setting.complain, Value.arranged]
  | _ => simp [Node.ofValue, Node.text, Scalar.of, unexpected, Setting.complain, Value.arranged]

theorem Fields.Took.left_wellFormed {types : List Type} {fields : Fields types}
    {entries left : Entries} {draft : Draft types} (htook : fields.Took s entries draft left)
    (hv : (Value.object entries).WellFormed) : (Value.object left).WellFormed :=
  .object (htook.left_names_nodup hv.names_nodup) fun _ he => hv.entry (htook.left_subset he)

/-- A record that keeps the members it does not know is made up from the members its
fields take and from all that are left over. -/
theorem openRecord_ofValue_eq_ok_iff {types : List Type} {title : String}
    {fields : Fields types} {build : Row types → Entries → α} {entries : Entries}
    (hv : (Value.object entries).WellFormed) (hs : s.Unbounded) {a : α} :
    openRecord title fields build s (.ofValue (.object entries)) = .ok a ↔
      ∃ draft left row, fields.Took s entries draft left ∧ fields.finish s draft = .ok row ∧
        a = build row (arrangedEntries left).sorted := by
  have hread := fields.readEntries_eq_ok_iff (s := s) true hv.names_nodup fun _ e he =>
    freeForm_ofValue (hv.entry he) ((hs.step (.member e.1)).roomy _)
  have hopen : openRecord title fields build s (.ofValue (.object entries)) = .ok a ↔
      ∃ progress row,
        fields.readEntries true s (Node.ofEntries entries) ⟨fields.blank, []⟩ = .ok progress ∧
        fields.finish s progress.draft = .ok row ∧ a = build row progress.others := by
    simp only [openRecord, Node.ofValue, Fields.readMapping, hs.enter, bind, Except.bind]
    cases fields.readEntries true s (Node.ofEntries entries) ⟨fields.blank, []⟩ with
    | error c =>
        obtain ⟨reason, place⟩ := c
        cases place <;> simp [Setting.locate]
    | ok progress =>
        cases hfinish : fields.finish s progress.draft with
        | error c => simp [Setting.locate, hfinish]
        | ok row => simp [Setting.locate, hfinish, pure, Except.pure, eq_comm]
  rw [hopen]
  constructor
  · rintro ⟨⟨draft, others⟩, row, hentries, hfinish, rfl⟩
    obtain ⟨left, htook, rfl⟩ := (hread _).mp hentries
    exact ⟨draft, left, row, htook, hfinish, rfl⟩
  · rintro ⟨draft, left, row, htook, hfinish, rfl⟩
    exact ⟨⟨draft, _⟩, row, (hread _).mpr ⟨left, htook, rfl⟩, hfinish, rfl⟩

end

end Document

end PolicyRollout
