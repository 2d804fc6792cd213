import PolicyRollout.Json.Value
/-!
Documents as they are read.  A document is a tree of nodes that may break off:
reading stops at the first fault, and what stands before it has already been
read.  A decoder that walks the tree from left to right therefore meets
whichever comes first, a value it did not expect or the place where the text
goes wrong.
-/
namespace PolicyRollout.Document

/-- Why a text is no document. -/
inductive Fault where
  | endInList
  | endInObject
  | endInString
  | endInValue
  | noColon
  | noCommaInList
  | noCommaInObject
  | badWord
  | noValue
  | badEscape
  | badNumber
  | numberTooGreat
  | badEncoding
  | rawControl
  | keyNotText
  | loneSurrogate
  | unfinishedSurrogate
  | trailingComma
  | trailingText
  | tooDeep
  | noDocument
  | severalDocuments
  | unknownAnchor
  /-- A fault of indentation-based markup: what is wrong, at which offset when
  that is all that is known, and what was being read. -/
  | markup (problem : String) (offset : Option Nat) (context : Option String)
deriving DecidableEq, Repr, Inhabited

def Fault.message : Fault → String
  | .endInList => "EOF while parsing a list"
  | .endInObject => "EOF while parsing an object"
  | .endInString => "EOF while parsing a string"
  | .endInValue => "EOF while parsing a value"
  | .noColon => "expected `:`"
  | .noCommaInList => "expected `,` or `]`"
  | .noCommaInObject => "expected `,` or `\x7d`"
  | .badWord => "expected ident"
  | .noValue => "expected value"
  | .badEscape => "invalid escape"
  | .badNumber => "invalid number"
  | .numberTooGreat => "number out of range"
  | .badEncoding => "invalid unicode code point"
  | .rawControl => "control character (\\u0000-\\u001F) found while parsing a string"
  | .keyNotText => "key must be a string"
  | .loneSurrogate => "lone leading surrogate in hex escape"
  | .unfinishedSurrogate => "unexpected end of hex escape"
  | .trailingComma => "trailing comma"
  | .trailingText => "trailing characters"
  | .tooDeep => "recursion limit exceeded"
  | .noDocument => "EOF while parsing a value"
  | .severalDocuments =>
    "deserializing from YAML containing more than one document is not supported"
  | .unknownAnchor => "unknown anchor"
  | .markup problem offset context =>
    let place := match offset with
      | some n => " at position " ++ Text.decimalText n
      | none => ""
    let reading := match context with
      | some c => ", " ++ c
      | none => ""
    problem ++ place ++ reading

/-- Where a text goes wrong: the fault met by a reader, and the one met when
the place is only passed over. -/
structure Break where
  read : Fault
  skip : Fault
deriving DecidableEq, Repr, Inhabited

/-- A break that is the same for a reader and in passing. -/
def Break.at (f : Fault) : Break := ⟨f, f⟩

/-- What a node turns out to be. -/
inductive Found where
  | unit
  | boolean (b : Bool)
  | integer (n : Int)
  /-- An integer of more than 64 bits; `signed` when it is negative. -/
  | wideInteger (n : Int)
  | float (x : Binary64)
  /-- A number that is infinite or none. -/
  | unbounded (name : String)
  | text (s : String)
  | sequence
  | mapping
deriving DecidableEq, Repr, Inhabited

/-- Whether a scalar stands for an absent value. -/
inductive Presence where
  | absent
  | present
  /-- It is marked as absent and yet holds something else. -/
  | contradictory
deriving DecidableEq, Repr, Inhabited

/-- A scalar, by everything it can be taken for. -/
structure Scalar where
  /-- What it is when nothing is known about it. -/
  found : Found
  /-- What its mark promises and its text does not hold. -/
  broken : Option String
  text? : Option String
  bool? : Option Bool
  integer? : Option Int
  presence : Presence
  /-- Whether it has no text at all and so stands for an empty collection. -/
  isEmpty : Bool
deriving Repr, Inhabited

inductive Node where
  | scalar (s : Scalar)
  /-- A scalar that may be passed over but not read. -/
  | spoiled (why : Fault)
  /-- Another mention of the node with this anchor. -/
  | aliasTo (anchor : Nat)
  | sequence (items : List Node) (stop : Option Break)
  | mapping (entries : List (Node × Node)) (stop : Option Break)
  /-- The text goes wrong here. -/
  | broken (stop : Break)
deriving Repr, Inhabited

/-- A whole text: its root, the nodes that have anchors, latest first, and what
is wrong with the text after the root. -/
structure Source where
  root : Node
  anchors : List (Nat × Node)
  tail : Option Fault
deriving Repr, Inhabited

/-- The scalar that is one known thing, and nothing else. -/
def Scalar.of (found : Found) : Scalar where
  found
  broken := none
  text? := match found with
    | .text s => some s
    | _ => none
  bool? := match found with
    | .boolean b => some b
    | _ => none
  integer? := match found with
    | .integer n => some n
    | _ => none
  presence := match found with
    | .unit => .absent
    | _ => .present
  isEmpty := false

def Node.text (s : String) : Node :=
  .scalar (.of (.text s))

def foundNumber : Json.Number → Found
  | .natural n => .integer n
  | .negative n => .integer (-(n : Int))
  | .float x => .float x

mutual

def Node.ofValue : Json.Value → Node
  | .null => .scalar (.of .unit)
  | .bool b => .scalar (.of (.boolean b))
  | .number n => .scalar (.of (foundNumber n))
  | .string s => .text s
  | .array items => .sequence (ofItems items) none
  | .object entries => .mapping (ofEntries entries) none

def Node.ofItems : List Json.Value → List Node
  | [] => []
  | item :: items => Node.ofValue item :: ofItems items

def Node.ofEntries : List (String × Json.Value) → List (Node × Node)
  | [] => []
  | (key, value) :: entries => (.text key, Node.ofValue value) :: ofEntries entries

end

end PolicyRollout.Document
