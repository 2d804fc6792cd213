import PolicyRollout.Document.Node
import PolicyRollout.Json.Writer
import PolicyRollout.Text.Quoted
/-!
Complaints about a document: the reason, the place, and the wording, which
depends on the kind of document.
-/
namespace PolicyRollout.Document

/-- Why a document cannot be decoded. -/
inductive Reason where
  | invalidType (found : Found) (expected : String)
  | invalidValue (found : Found) (expected : String)
  | invalidLength (length : Nat) (expected : String)
  | missingField (name : String)
  | duplicateField (name : String)
  | noVariant (name : String)
  | unknownVariant (name : String) (known : List String)
  /-- The parts are well formed but do not make up the whole. -/
  | refused (message : String)
  | fault (f : Fault)
deriving DecidableEq, Repr, Inhabited

/-- A step from a node to one inside it. -/
inductive Step where
  | item (index : Nat)
  | member (name : String)
deriving DecidableEq, Repr

/-- A reason and the node it is about, as steps from the root, last first. -/
structure Complaint where
  reason : Reason
  place : Option (List Step)
deriving DecidableEq, Repr, Inhabited

/-- What sets one kind of document apart from another. -/
structure Dialect where
  /-- The name of an absent value. -/
  unitName : String
  floatText : Binary64 → String
  /-- Whether a record may be written as the list of its fields. -/
  recordsAsLists : Bool
  /-- The complaint about a list of this many items that is too long for its record. -/
  surplus : Nat → Reason
  /-- Whether complaints name the place. -/
  namesPlaces : Bool

def Dialect.json : Dialect where
  unitName := "null"
  floatText := Binary64.render Json.floatLayout
  recordsAsLists := true
  surplus _ := .fault .trailingText
  namesPlaces := false

/-- JSON values that have been read before. -/
def Dialect.values : Dialect :=
  { Dialect.json with surplus := fun n => .invalidLength n "fewer elements in array" }

/-- The layout that shows all digits in their places. -/
def positionalLayout : FloatLayout := ⟨400, -400, false⟩

def Dialect.yaml : Dialect where
  unitName := "unit value"
  floatText := Binary64.render positionalLayout
  recordsAsLists := false
  surplus _ := .fault .trailingText
  namesPlaces := true

/-- What was found, in words. -/
def Found.describe (dialect : Dialect) : Found → String
  | .unit => dialect.unitName
  | .boolean true => "boolean `true`"
  | .boolean false => "boolean `false`"
  | .integer n => "integer `" ++ Text.integerText n ++ "`"
  | .wideInteger n =>
    "integer `" ++ Text.integerText n ++ "` as " ++ (if n < 0 then "i128" else "u128")
  | .float x => "floating point `" ++ dialect.floatText x ++ "`"
  | .unbounded name => "floating point `" ++ name ++ "`"
  | .text s => "string " ++ Text.quoted s
  | .sequence => "sequence"
  | .mapping => "map"

/-- Names between backquotes, as alternatives. -/
def alternatives : List String → String
  | [] => "there are no variants"
  | [a] => "expected `" ++ a ++ "`"
  | [a, b] => "expected `" ++ a ++ "` or `" ++ b ++ "`"
  | names => "expected one of " ++ ", ".intercalate (names.map fun n => "`" ++ n ++ "`")

def Reason.message (dialect : Dialect) : Reason → String
  | .invalidType found expected =>
    "invalid type: " ++ found.describe dialect ++ ", expected " ++ expected
  | .invalidValue found expected =>
    "invalid value: " ++ found.describe dialect ++ ", expected " ++ expected
  | .invalidLength n expected =>
    "invalid length " ++ Text.decimalText n ++ ", expected " ++ expected
  | .missingField name => "missing field `" ++ name ++ "`"
  | .duplicateField name => "duplicate field `" ++ name ++ "`"
  | .noVariant name => "data did not match any variant of untagged enum " ++ name
  | .unknownVariant name known =>
    "unknown variant `" ++ name ++ "`, " ++ alternatives known
  | .refused message => message
  | .fault f => f.message

/-- A place in words: members after points, items in brackets. -/
def placeText : List Step → String
  | [] => "."
  | .item index :: outer => placeText outer ++ "[" ++ Text.decimalText index ++ "]"
  | .member name :: [] => name
  | .member name :: outer => placeText outer ++ "." ++ name

def Complaint.message (dialect : Dialect) (c : Complaint) : String :=
  let reason := c.reason.message dialect
  match c.reason, c.place with
  | .fault _, _ => reason
  | _, some (step :: steps) =>
    if dialect.namesPlaces then placeText (step :: steps) ++ ": " ++ reason else reason
  | _, _ => reason

end PolicyRollout.Document
