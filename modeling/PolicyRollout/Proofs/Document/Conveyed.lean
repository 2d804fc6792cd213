import PolicyRollout.Proofs.Document.Members
import PolicyRollout.Proofs.Json.RoundTrip
/-!
What values convey to decoders.  A decoder is followed over the values that are
written for it: texts, numbers, lists, and records field by field.
-/
namespace PolicyRollout.Document

open Json (Value)

/-- So many collections may still be opened inside one another. -/
def Setting.Roomy (room : Nat) (s : Setting) : Prop :=
  ∀ depth ∈ s.depth, room ≤ depth

/-- A value that can be written exactly, and what a decoder makes of it wherever so
many collections may be opened. -/
structure Conveys {α : Type} (decode : Decoder α) (room : Nat) (v : Value) (a : α) : Prop where
  exact : v.Exact
  decodes : ∀ {s : Setting}, s.Roomy room → decode s (.ofValue v) = .ok a

theorem Setting.Roomy.enter {room : Nat} {s : Setting} (hs : s.Roomy (room + 1)) :
    ∃ inner, s.enter = .ok inner ∧ inner.Roomy room := by
  cases hdepth : s.depth with
  | none => exact ⟨s, by simp [Setting.enter, hdepth], by simp [Roomy, hdepth]⟩
  | some depth =>
      have hle := hs depth hdepth
      cases depth with
      | zero => omega
      | succ depth =>
          refine ⟨{ s with depth := some depth }, by simp [Setting.enter, hdepth], ?_⟩
          intro d hd
          obtain rfl := Option.some_inj.mp hd
          omega

theorem resolve_ofValue (s : Setting) (v : Value) : s.resolve (.ofValue v) = .ofValue v := by
  cases v <;> rfl

/-- The only value that is absent is null. -/
theorem presence_ofValue {v : Value} (hnull : v ≠ .null) {sc : Scalar}
    (hnode : Node.ofValue v = .scalar sc) : sc.presence = .present := by
  cases v with
  | null => contradiction
  | number n =>
      obtain rfl := Node.scalar.inj hnode
      cases n <;> rfl
  | bool b =>
      obtain rfl := Node.scalar.inj hnode
      rfl
  | string s =>
      obtain rfl := Node.scalar.inj hnode
      rfl
  | array items => simp [Node.ofValue] at hnode
  | object entries => simp [Node.ofValue] at hnode

namespace Conveys

variable {α β : Type} {decode : Decoder α} {room : Nat} {v : Value} {a : α}

theorem text (room : Nat) (s : String) : Conveys Document.text room (.string s) s :=
  ⟨.string s, fun _ => rfl⟩

theorem flag (room : Nat) (b : Bool) : Conveys Document.flag room (.bool b) b :=
  ⟨.bool b, fun _ => rfl⟩

theorem naturalUpTo (room : Nat) {high n : Nat} (hn : n ≤ high) (hhigh : high ≤ maxNatural64)
    (expected : String) : Conveys (Document.naturalUpTo high expected) room (.nat n) n where
  exact := .number (show n ≤ maxNatural64 by omega)
  decodes := by
    intro s _
    have hrange : (0 : Int) ≤ n ∧ (n : Int) ≤ high := by omega
    have hread : integerIn 0 high expected s (.ofValue (.nat n)) = .ok (n : Int) := by
      simp [integerIn, Value.nat, Node.ofValue, foundNumber, Setting.resolve, Scalar.of, hrange]
    simp only [Document.naturalUpTo, hread, bind, Except.bind, pure, Except.pure,
      Int.toNat_natCast]

theorem nat16 (room : Nat) {n : Nat} (hn : n ≤ 65535) :
    Conveys Document.nat16 room (.nat n) n :=
  naturalUpTo room hn (by decide) "u16"

theorem map (f : α → β) (hv : Conveys decode room v a) :
    Conveys (fun s node => f <$> decode s node) room v (f a) where
  exact := hv.exact
  decodes := by
    intro s hs
    simp only [hv.decodes hs]
    rfl

/-- A string, or null where there is none. -/
theorem stringOrNull (room : Nat) (o : Option String) :
    Conveys (Document.optional Document.text) room (.stringOrNull o) o where
  exact := by
    cases o with
    | none => exact .null
    | some s => exact .string s
  decodes := by
    intro s _
    cases o <;> rfl

/-- A value that is there. -/
theorem optional (hv : Conveys decode room v a) (hnull : v ≠ .null) :
    Conveys (Document.optional decode) room v (some a) where
  exact := hv.exact
  decodes := by
    intro s hs
    have hread := hv.decodes hs
    simp only [Document.optional, resolve_ofValue]
    cases hnode : Node.ofValue v with
    | scalar sc =>
        rw [hnode] at hread
        simp only [presence_ofValue hnull hnode, hread]
        rfl
    | _ =>
        rw [hnode] at hread
        simp only [hread]
        rfl

theorem decodeItems {write : α → Value} {items : List α}
    (hitems : ∀ a ∈ items, Conveys decode room (write a) a) {s : Setting} (hs : s.Roomy room)
    (index : Nat) :
    Document.decodeItems decode s index (Node.ofItems (items.map write)) = .ok items := by
  induction items generalizing index with
  | nil => rfl
  | cons a rest ih =>
      have hfirst := (hitems a List.mem_cons_self).decodes (s := s.step (.item index)) hs
      have hrest := ih (fun b hb => hitems b (List.mem_cons_of_mem a hb)) (index + 1)
      rw [List.map_cons, Node.ofItems, Document.decodeItems, hfirst]
      simp only [bind, Except.bind, hrest]
      rfl

theorem list {write : α → Value} {items : List α}
    (hitems : ∀ a ∈ items, Conveys decode room (write a) a) :
    Conveys (Document.list decode) (room + 1) (.array (items.map write)) items where
  exact := by
    apply Value.Exact.array
    intro v hv
    obtain ⟨a, ha, rfl⟩ := List.mem_map.mp hv
    exact (hitems a ha).exact
  decodes := by
    intro s hs
    obtain ⟨inner, hinner, hroomy⟩ := hs.enter
    simp only [Document.list, resolve_ofValue]
    simp only [Node.ofValue, hinner, bind, Except.bind]
    rw [decodeItems hitems hroomy]
    rfl

theorem strings (room : Nat) (texts : List String) :
    Conveys (Document.list Document.text) (room + 1) (.strings texts) texts :=
  list fun s _ => text room s

end Conveys

/-- Members that hold the values of all fields, in their order; a member may be left
out if its field has that value by default. -/
inductive Fields.Holds (room : Nat) :
    {types : List Type} → Fields types → Json.Entries → Row types → Prop
  | nil : Holds room .nil [] ()
  | member {α : Type} {types : List Type} {field : Field α} {rest : Fields types} {v : Value}
      {a : α} {entries : Json.Entries} {row : Row types} (hv : Conveys field.decode room v a)
      (hrest : rest.Holds room entries row) :
      Holds room (.cons field rest) ((field.name, v) :: entries) (a, row)
  | omitted {α : Type} {types : List Type} {field : Field α} {rest : Fields types} {a : α}
      {entries : Json.Entries} {row : Row types} (hdefault : field.default = some a)
      (hrest : rest.Holds room entries row) :
      Holds room (.cons field rest) entries (a, row)

namespace Fields

variable {types : List Type} {fields : Fields types} {room : Nat} {entries : Json.Entries}
  {row : Row types}

theorem Holds.names_sublist (hholds : fields.Holds room entries row) :
    entries.names.Sublist fields.names := by
  induction hholds with
  | nil => exact .slnil
  | member hv hrest ih => exact ih.cons_cons _
  | omitted hdefault hrest ih => exact ih.cons _

theorem Holds.names_ne (hholds : fields.Holds room entries row) {name : String}
    (hname : name ∉ fields.names) : ∀ e ∈ entries, e.1 ≠ name := by
  intro e he heq
  have hmem := hholds.names_sublist.subset (List.mem_map_of_mem he)
  exact hname (heq ▸ hmem)

theorem Holds.exact (hholds : fields.Holds room entries row) : ∀ e ∈ entries, e.2.Exact := by
  induction hholds with
  | nil => simp
  | member hv hrest ih =>
      intro e he
      rcases List.mem_cons.mp he with rfl | hmore
      · exact hv.exact
      · exact ih e hmore
  | omitted hdefault hrest ih => exact ih

/-- Every field takes its member, no member is left over, and the row is made up from them. -/
theorem Holds.took (hholds : fields.Holds room entries row) (hnames : fields.names.Nodup)
    {s : Setting} (hs : s.Roomy room) :
    ∃ draft, fields.Took s entries draft [] ∧ ∀ s, fields.finish s draft = .ok row := by
  induction hholds with
  | nil => exact ⟨(), .nil (.refl _), fun _ => rfl⟩
  | @member α types field rest v a entries row hv hrest ih =>
      obtain ⟨hname, hrestnames⟩ := List.nodup_cons.mp hnames
      obtain ⟨draft, htook, hfinish⟩ := ih hrestnames
      have hne := hrest.names_ne hname
      refine ⟨(some a, draft), .cons (.present (hv.decodes hs)) (.refl _) hne htook, ?_⟩
      intro s
      simp only [finish, Option.some_or, hfinish]
      rfl
  | @omitted α types field rest a entries row hdefault hrest ih =>
      obtain ⟨hname, hrestnames⟩ := List.nodup_cons.mp hnames
      obtain ⟨draft, htook, hfinish⟩ := ih hrestnames
      refine ⟨(none, draft), .cons .absent (.refl _) (hrest.names_ne hname) htook, ?_⟩
      intro s
      simp only [finish, Option.none_or, hdefault, hfinish]
      rfl

/-- A record is read from members that hold its fields, in whatever order they stand. -/
theorem Holds.conveys_perm (hholds : fields.Holds room entries row)
    (hnames : fields.names.Nodup) {members : Json.Entries} (hperm : members.Perm entries)
    {α : Type} (title : String) (build : Row types → α) :
    Conveys (record title fields build) (room + 1) (.object members) (build row) where
  exact := .object fun e he => hholds.exact e (hperm.mem_iff.mp he)
  decodes := by
    intro s hs
    obtain ⟨inner, hinner, hroomy⟩ := hs.enter
    obtain ⟨draft, htook, hfinish⟩ := hholds.took hnames hroomy
    have hmembers : members.names.Nodup :=
      (hperm.map Prod.fst).nodup_iff.mpr (hholds.names_sublist.nodup hnames)
    have hread : fields.readEntries false inner (Node.ofEntries members) ⟨fields.blank, []⟩ =
        .ok ⟨draft, []⟩ := by
      rw [readEntries_eq_ok_iff false hmembers nofun]
      exact ⟨[], htook.perm hperm, rfl⟩
    simp only [record, resolve_ofValue]
    simp only [Node.ofValue, readMapping, hinner, bind, Except.bind, hread, Setting.locate,
      hfinish]
    rfl

theorem Holds.conveys (hholds : fields.Holds room entries row) (hnames : fields.names.Nodup)
    {α : Type} (title : String) (build : Row types → α) :
    Conveys (record title fields build) (room + 1) (.object entries) (build row) :=
  hholds.conveys_perm hnames (.refl _) title build

end Fields

namespace Conveys

variable {α : Type} {decode : Decoder α} {room : Nat} {v : Value} {a : α}

theorem decode_source (hv : Conveys decode room v a) (dialect : Dialect) {depth : Option Nat}
    (hdepth : ∀ d ∈ depth, room ≤ d) :
    Source.decode dialect depth decode ⟨.ofValue v, [], none⟩ = .ok a := by
  have hread := hv.decodes (s := ⟨dialect, [], depth, []⟩) hdepth
  simp only [Source.decode, hread]

/-- What is conveyed is decoded from the text of the value. -/
theorem decode_text (hv : Conveys decode room v a) (hroom : room ≤ Json.maxDepth) :
    Json.decode decode (Text.symbolsOfText v.text) = .ok a := by
  rw [Json.decode, Json.read_text hv.exact]
  exact hv.decode_source .json (by simpa using hroom)

theorem decode_prettyText (hv : Conveys decode room v a) (hroom : room ≤ Json.maxDepth) :
    Json.decode decode (Text.symbolsOfText v.prettyText) = .ok a := by
  rw [Json.decode, Json.read_prettyText hv.exact]
  exact hv.decode_source .json (by simpa using hroom)

end Conveys

end PolicyRollout.Document
