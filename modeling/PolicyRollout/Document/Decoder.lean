import PolicyRollout.Document.Complaint
import PolicyRollout.Number.Basic
/-!
Decoders turn nodes into values.  They read from left to right and stop at the
first complaint.
-/
namespace PolicyRollout.Document

/-- What a decoder knows besides its node. -/
structure Setting where
  dialect : Dialect
  anchors : List (Nat × Node)
  /-- How many collections may still be opened inside one another; any number when absent. -/
  depth : Option Nat
  /-- The steps from the root to the node, last first. -/
  place : List Step

/-- A way to read a value from a node. -/
abbrev Decoder (α : Type) := Setting → Node → Except Complaint α

namespace Setting

/-- The setting of a node one step further in. -/
def step (s : Setting) (step : Step) : Setting :=
  { s with place := step :: s.place }

/-- A complaint about the node at hand. -/
def complain {α : Type} (s : Setting) (reason : Reason) : Except Complaint α :=
  .error ⟨reason, some s.place⟩

/-- A complaint that names no place yet is about the node at hand. -/
def locate {α : Type} (s : Setting) : Except Complaint α → Except Complaint α
  | .error ⟨reason, none⟩ => .error ⟨reason, some s.place⟩
  | result => result

/-- The node an alias stands for, or the node itself. -/
def resolve (s : Setting) : Node → Node
  | .aliasTo anchor => ((s.anchors.find? (·.1 = anchor)).map (·.2)).getD (.spoiled .unknownAnchor)
  | node => node

/-- The setting inside a collection. -/
def enter (s : Setting) : Except Complaint Setting :=
  match s.depth with
  | none => .ok s
  | some 0 => s.complain (.fault .tooDeep)
  | some (depth + 1) => .ok { s with depth := some depth }

end Setting

/-- The complaint about a node that is not what is expected. -/
def unexpected {α : Type} (expected : String) (s : Setting) : Node → Except Complaint α
  | .scalar sc => match sc.broken with
    | some promised => s.complain (.invalidValue sc.found promised)
    | none => s.complain (.invalidType sc.found expected)
  | .sequence .. => s.complain (.invalidType .sequence expected)
  | .mapping .. => s.complain (.invalidType .mapping expected)
  | .spoiled f => s.complain (.fault f)
  | .broken b => s.complain (.fault b.read)
  | .aliasTo _ => s.complain (.fault .unknownAnchor)

/-- A text, called `expected` in complaints. -/
def textAs (expected : String) : Decoder String := fun s node =>
  let node := s.resolve node
  match node with
  | .scalar sc => match sc.text? with
    | some text => .ok text
    | none => unexpected expected s node
  | _ => unexpected expected s node

def text : Decoder String :=
  textAs "a string"

def flag : Decoder Bool := fun s node =>
  let node := s.resolve node
  match node with
  | .scalar sc => match sc.bool? with
    | some b => .ok b
    | none => unexpected "a boolean" s node
  | _ => unexpected "a boolean" s node

/-- An integer from `low` to `high`, called `expected` in complaints. -/
def integerIn (low high : Int) (expected : String) : Decoder Int := fun s node =>
  let node := s.resolve node
  match node with
  | .scalar sc => match sc.integer? with
    | some n =>
      if low ≤ n && n ≤ high then .ok n else s.complain (.invalidValue (.integer n) expected)
    | none => unexpected expected s node
  | _ => unexpected expected s node

/-- A natural number of at most `high`, called `expected` in complaints. -/
def naturalUpTo (high : Nat) (expected : String) : Decoder Nat := fun s node => do
  let n ← integerIn 0 high expected s node
  return n.toNat

def nat8 : Decoder Nat := naturalUpTo 255 "u8"

def nat16 : Decoder Nat := naturalUpTo 65535 "u16"

def nat64 : Decoder Nat := naturalUpTo maxNatural64 "u64"

/-- A count; counts have 64 bits. -/
def count : Decoder Nat := naturalUpTo maxNatural64 "usize"

def int64 : Decoder Int := integerIn (-maxInteger64 - 1) maxInteger64 "i64"

/-- A value that may be absent. -/
def optional {α : Type} (decode : Decoder α) : Decoder (Option α) := fun s node =>
  let node := s.resolve node
  match node with
  | .scalar sc => match sc.presence with
    | .absent => .ok none
    | .present => some <$> decode s node
    | .contradictory => .error ⟨.invalidValue sc.found "null", none⟩
  | _ => some <$> decode s node

/-- The items of a list, from the `index`-th on. -/
def decodeItems {α : Type} (decode : Decoder α) (s : Setting) :
    (index : Nat) → List Node → Except Complaint (List α)
  | _, [] => .ok []
  | index, item :: items => do
    let first ← decode (s.step (.item index)) item
    let rest ← decodeItems decode s (index + 1) items
    return first :: rest

def list {α : Type} (decode : Decoder α) : Decoder (List α) := fun s node =>
  let node := s.resolve node
  match node with
  | .sequence items stop => do
    let inner ← s.enter
    let values ← s.locate (decodeItems decode inner 0 items)
    match stop with
    | none => return values
    | some b => s.complain (.fault b.read)
  | .scalar sc => if sc.isEmpty then .ok [] else unexpected "a sequence" s node
  | _ => unexpected "a sequence" s node

mutual

/-- A node is passed over: it must be well formed, whatever it holds. -/
def pass (s : Setting) : Node → Except Complaint Unit
  | .scalar _ => .ok ()
  | .spoiled _ => .ok ()
  | .aliasTo _ => .ok ()
  | .broken b => s.complain (.fault b.skip)
  | .sequence items stop => do
    passItems s items
    match stop with
    | none => .ok ()
    | some b => s.complain (.fault b.skip)
  | .mapping entries stop => do
    passEntries s entries
    match stop with
    | none => .ok ()
    | some b => s.complain (.fault b.skip)

def passItems (s : Setting) : List Node → Except Complaint Unit
  | [] => .ok ()
  | item :: items => do
    pass s item
    passItems s items

def passEntries (s : Setting) : List (Node × Node) → Except Complaint Unit
  | [] => .ok ()
  | (key, value) :: entries => do
    pass s key
    pass s value
    passEntries s entries

end

/-- The JSON value a scalar is. -/
def Found.value? : Found → Option Json.Value
  | .unit => some .null
  | .boolean b => some (.bool b)
  | .integer n => some (.number (if n < 0 then .negative n.natAbs else .natural n.natAbs))
  | .float x => some (.number (.float x))
  | .text s => some (.string s)
  | _ => none

mutual

/-- Any value, kept as it is.  The members of an object are kept in the order
of their names, and of two with one name the later. -/
def freeForm (s : Setting) : Node → Except Complaint Json.Value
  | .scalar sc => match sc.found.value? with
    | some v => .ok v
    | none => s.complain (.invalidType sc.found "any valid JSON value")
  | .spoiled f => s.complain (.fault f)
  | .broken b => s.complain (.fault b.read)
  | .aliasTo _ => s.complain (.fault .unknownAnchor)
  | .sequence items stop => do
    let inner ← s.enter
    let values ← freeFormItems inner items
    match stop with
    | none => return .array values
    | some b => s.complain (.fault b.read)
  | .mapping entries stop => do
    let inner ← s.enter
    let members ← freeFormEntries inner entries []
    match stop with
    | none => return .object members
    | some b => s.complain (.fault b.read)

/-- The items of a list, kept as they are. -/
def freeFormItems (s : Setting) : List Node → Except Complaint (List Json.Value)
  | [] => .ok []
  | item :: items => do
    let first ← freeForm s item
    let rest ← freeFormItems s items
    return first :: rest

/-- The members of an object, kept as they are, after `members`. -/
def freeFormEntries (s : Setting) :
    List (Node × Node) → Json.Entries → Except Complaint Json.Entries
  | [], members => .ok members
  | (key, value) :: entries, members => do
    let name ← text s key
    let kept ← freeForm s value
    freeFormEntries s entries (members.insert name kept)

end

/-- Any value, kept as it is. -/
def value : Decoder Json.Value := freeForm

/-- An object of any members. -/
def members : Decoder Json.Entries := fun s node =>
  match node with
  | .mapping .. => do
    match ← freeForm s node with
    | .object entries => return entries
    | _ => unexpected "a map" s node
  | _ => unexpected "a map" s node

/-- Decode a whole document: its root, and then nothing may be wrong behind it. -/
def Source.decode {α : Type} (dialect : Dialect) (depth : Option Nat) (decode : Decoder α)
    (source : Source) : Except Complaint α :=
  let s : Setting := ⟨dialect, source.anchors, depth, []⟩
  match decode s source.root with
  | .error c => .error c
  | .ok v => match source.tail with
    | none => .ok v
    | some f => s.complain (.fault f)

/-- Decode a JSON value that has been read before. -/
def decodeValue {α : Type} (decode : Decoder α) (v : Json.Value) : Except Complaint α :=
  decode ⟨.values, [], none, []⟩ (.ofValue v)

end PolicyRollout.Document
