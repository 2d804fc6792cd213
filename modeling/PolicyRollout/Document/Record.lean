import PolicyRollout.Document.Decoder
/-!
Records.  A record is described by its fields in order, each with a name, a
decoder and what its absence means.  It is read from a mapping, whose members
may come in any order and may hold unknown names, or, where the dialect has
it, from the list of its fields.
-/
namespace PolicyRollout.Document

structure Field (α : Type) where
  name : String
  decode : Decoder α
  /-- The value when a mapping has no such member. -/
  default : Option α
  /-- The value when a list ends before it. -/
  listDefault : Option α

/-- A field that must be there. -/
def Field.required {α : Type} (name : String) (decode : Decoder α) : Field α :=
  ⟨name, decode, none, none⟩

def Field.withDefault {α : Type} (name : String) (value : α) (decode : Decoder α) : Field α :=
  ⟨name, decode, some value, some value⟩

/-- A field that may be left out or be absent. -/
def Field.maybe {α : Type} (name : String) (decode : Decoder α) : Field (Option α) :=
  .withDefault name none (optional decode)

/-- A field that may be absent, and whose member may be left out of a mapping but not of a list. -/
def Field.nullable {α : Type} (name : String) (decode : Decoder α) : Field (Option α) :=
  ⟨name, optional decode, some none, none⟩

/-- The fields of a record, in order. -/
inductive Fields : List Type → Type 1 where
  | nil : Fields []
  | cons {α : Type} {types : List Type} (field : Field α) (rest : Fields types) :
      Fields (α :: types)

/-- The values of all fields. -/
def Row : List Type → Type
  | [] => Unit
  | α :: types => α × Row types

/-- The values read so far. -/
def Draft : List Type → Type
  | [] => Unit
  | α :: types => Option α × Draft types

namespace Fields

def size : {types : List Type} → Fields types → Nat
  | _, nil => 0
  | _, cons _ rest => rest.size + 1

/-- Nothing has been read. -/
def blank : {types : List Type} → Fields types → Draft types
  | _, nil => ()
  | _, cons _ rest => (none, rest.blank)

/-- Read the member `key` into the draft; none when no field has that name. -/
def place (key : String) (s : Setting) (node : Node) : {types : List Type} → Fields types →
    Draft types → Except Complaint (Option (Draft types))
  | _, nil, _ => .ok none
  | _, cons field rest, (cell, draft) =>
    if field.name = key then
      match cell with
      | some _ => s.complain (.duplicateField key)
      | none => do
        let v ← field.decode (s.step (.member key)) node
        return some (some v, draft)
    else do
      let placed ← rest.place key s node draft
      return placed.map fun draft => (cell, draft)

/-- The values of a mapping that has been read to its end. -/
def finish (s : Setting) : {types : List Type} → Fields types → Draft types →
    Except Complaint (Row types)
  | _, nil, _ => .ok ()
  | _, cons field rest, (cell, draft) =>
    match cell.or field.default with
    | none => s.complain (.missingField field.name)
    | some v => do
      let row ← rest.finish s draft
      return (v, row)

/-- What reading the members of a mapping has come to. -/
structure Progress (types : List Type) where
  draft : Draft types
  /-- The members with unknown names, kept in the order of their names. -/
  others : Json.Entries

/-- Read the members of a mapping in turn.  Members with unknown names are
kept when `keepOthers`, and passed over otherwise. -/
def readEntries {types : List Type} (fields : Fields types) (keepOthers : Bool) (s : Setting) :
    List (Node × Node) → Progress types → Except Complaint (Progress types)
  | [], progress => .ok progress
  | (key, node) :: entries, progress => do
    let name ← textAs "field identifier" s key
    match ← fields.place name s node progress.draft with
    | some draft => readEntries fields keepOthers s entries { progress with draft }
    | none =>
      if keepOthers then
        let kept ← freeForm (s.step (.member name)) node
        readEntries fields keepOthers s entries
          { progress with others := progress.others.insert name kept }
      else
        pass s node
        readEntries fields keepOthers s entries progress

/-- Read the fields from the items of a list; with the items that are left. -/
def readItems (s : Setting) (title : String) : {types : List Type} → Fields types →
    (index : Nat) → List Node → (stop : Option Break) → Except Complaint (Row types × List Node)
  | _, nil, _, items, _ => .ok ((), items)
  | _, cons field rest, index, [], stop =>
    match stop, field.listDefault with
    | some b, _ => s.complain (.fault b.read)
    | none, none => s.complain (.invalidLength index title)
    | none, some v => do
      let (row, items) ← rest.readItems s title (index + 1) [] none
      return ((v, row), items)
  | _, cons field rest, index, item :: items, stop => do
    let v ← field.decode (s.step (.item index)) item
    let (row, items) ← rest.readItems s title (index + 1) items stop
    return ((v, row), items)

/-- The title of a record in complaints about the length of a list. -/
def titleWithSize {types : List Type} (fields : Fields types) (title : String) : String :=
  let n := fields.size
  title ++ " with " ++ Text.decimalText n ++ (if n = 1 then " element" else " elements")

/-- Read a mapping, and the unknown members if they are kept. -/
def readMapping {types : List Type} (fields : Fields types) (keepOthers : Bool) (s : Setting)
    (entries : List (Node × Node)) (stop : Option Break) :
    Except Complaint (Row types × Json.Entries) := do
  let inner ← s.enter
  let progress ← s.locate (fields.readEntries keepOthers inner entries ⟨fields.blank, []⟩)
  match stop with
  | some b => s.complain (.fault b.read)
  | none =>
    let row ← fields.finish s progress.draft
    return (row, progress.others)

end Fields

/-- The fault of a list that has more items than its record has fields. -/
def surplusFault (b : Break) : Fault :=
  match b.read with
  | .endInList => .endInList
  | .trailingComma => .trailingComma
  | _ => .trailingText

/-- A record, called `title` in complaints. -/
def record {types : List Type} {α : Type} (title : String) (fields : Fields types)
    (build : Row types → α) : Decoder α := fun s node =>
  let node := s.resolve node
  match node with
  | .mapping entries stop => do
    let (row, _) ← fields.readMapping false s entries stop
    return build row
  | .sequence items stop =>
    if s.dialect.recordsAsLists then do
      let inner ← s.enter
      let (row, rest) ← fields.readItems inner (fields.titleWithSize title) 0 items stop
      match rest, stop with
      | _ :: _, _ => s.complain (s.dialect.surplus items.length)
      | [], some b => s.complain (.fault (surplusFault b))
      | [], none => return build row
    else unexpected title s node
  | .scalar sc =>
    if sc.isEmpty then do
      let (row, _) ← fields.readMapping false s [] none
      return build row
    else unexpected title s node
  | _ => unexpected title s node

/-- A record that keeps the members it does not know; it is always a mapping. -/
def openRecord {types : List Type} {α : Type} (title : String) (fields : Fields types)
    (build : Row types → Json.Entries → α) : Decoder α := fun s node =>
  match node with
  | .mapping entries stop => do
    let (row, others) ← fields.readMapping true s entries stop
    return build row others
  | _ => unexpected title s node

end PolicyRollout.Document
