import PolicyRollout.Document.Record
import PolicyRollout.Network.Address
import PolicyRollout.Text.Basic
/-!
Networks in CIDR notation, host addresses, source lists and ports, as they are
checked when a topology is loaded.
-/
namespace PolicyRollout.Network

open Document (Decoder)

/-- What is wrong with an address, a network or a port. -/
inductive NetworkError where
  | invalidAddress (text : String)
  | invalidCidr (text : String)
  | invalidPrefixLength (length : Nat)
  | invalidPort (port : Nat)
deriving DecidableEq, Repr

def NetworkError.message : NetworkError → String
  | .invalidAddress text => "Invalid IP address format: " ++ text
  | .invalidCidr text => "Invalid CIDR notation: " ++ text
  | .invalidPrefixLength n =>
    "Invalid prefix length: " ++ Text.decimalText n ++ " (must be 0-32 for IPv4, 0-128 for IPv6)"
  | .invalidPort n => "Invalid port: " ++ Text.decimalText n ++ " (must be 1-65535)"

/-- A host address; blanks around it are allowed. -/
def parseHost (text : String) : Except NetworkError Address :=
  match Address.parse? (Text.trim text) with
  | some ip => .ok ip
  | none => .error (.invalidAddress text)

/-- A port that can be listened on. -/
def checkPort (port : Nat) : Except NetworkError Nat :=
  if port = 0 then .error (.invalidPort port) else .ok port

/-- A network: an address and the number of its leading bits that are fixed. -/
structure Cidr where
  address : Address
  prefixLength : Nat
deriving DecidableEq, Repr

namespace Cidr

/-- The number of bits of an address. -/
def maxPrefixLength : Address → Nat
  | .v4 _ => 32
  | .v6 _ => 128

/-- The network of an address and a prefix length that fits it. -/
def ofParts (address : Address) (prefixLength : Nat) : Except NetworkError Cidr :=
  if prefixLength ≤ maxPrefixLength address then .ok ⟨address, prefixLength⟩
  else .error (.invalidPrefixLength prefixLength)

/-- The text before the first slash and the text after it. -/
def splitSlash : List Char → Option (List Char × List Char)
  | [] => none
  | c :: rest =>
    if c = '/' then some ([], rest)
    else (splitSlash rest).map fun (before, after) => (c :: before, after)

/-- The network a text names; no blanks are allowed in it. -/
def parse (text : String) : Except NetworkError Cidr :=
  match splitSlash text.toList with
  | none => .error (.invalidCidr text)
  | some (before, after) =>
    match Address.ofChars? before with
    | none => .error (.invalidAddress (String.ofList before))
    | some address =>
      match Text.unsigned? 255 after with
      | none => .error (.invalidCidr text)
      | some n => ofParts address n

/-- Whether the network has no fixed bits and so holds every address of its family. -/
def isAny (c : Cidr) : Bool :=
  c.prefixLength == 0

/-- The network in CIDR notation. -/
def text (c : Cidr) : String :=
  c.address.text ++ "/" ++ Text.decimalText c.prefixLength

def addressDecoder : Decoder Address := fun s node => do
  let text ← Document.textAs "IP address" s node
  match Address.parse? text with
  | some ip => return ip
  | none => s.complain (.refused "invalid IP address syntax")

def fields : Document.Fields [Address, Nat] :=
  .cons (.required "address" addressDecoder) (.cons (.required "prefix_length" Document.nat8) .nil)

/-- A network inside a document, as its two parts. -/
def decoder : Decoder Cidr :=
  Document.record "struct Cidr" fields fun (address, prefixLength, ()) => ⟨address, prefixLength⟩

def toJson (c : Cidr) : Json.Value :=
  .object [("address", .string c.address.text), ("prefix_length", .nat c.prefixLength)]

end Cidr

/-- The parts of a text between commas; there is always at least one. -/
def splitCommas : List Char → List (List Char)
  | [] => [[]]
  | c :: rest =>
    if c = ',' then [] :: splitCommas rest
    else match splitCommas rest with
      | [] => [[c]]
      | part :: parts => (c :: part) :: parts

/-- One source: a network if there is a slash in it, else a host. -/
def checkSource (item : List Char) : Except NetworkError Unit :=
  let text := String.ofList (Text.trimChars item)
  if '/' ∈ text.toList then (Cidr.parse text).map fun _ => ()
  else (parseHost text).map fun _ => ()

/-- All sources must be good. -/
def checkSources : List (List Char) → Except NetworkError Unit
  | [] => .ok ()
  | item :: items => do
    checkSource item
    checkSources items

/-- A list of sources separated by commas; blanks around a source are allowed. -/
def checkSourceList (text : String) : Except NetworkError Unit :=
  if Text.isBlankText text then .error (.invalidCidr text)
  else checkSources (splitCommas text.toList)

end PolicyRollout.Network
