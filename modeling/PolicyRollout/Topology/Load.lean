import PolicyRollout.Files.Tree
import PolicyRollout.Json.Reader
import PolicyRollout.Text.Utf8
import PolicyRollout.Topology.Format
import PolicyRollout.Topology.Validation
import PolicyRollout.Yaml.Reader
/-!
Topologies from documents.  A document is read, decoded and checked; a
topology that has been loaded satisfies everything that is checked.
-/
namespace PolicyRollout

open Document (Complaint Dialect)

inductive DocumentFormat where
  | yaml
  | json
deriving DecidableEq, Repr

namespace DocumentFormat

def dialect : DocumentFormat → Dialect
  | .yaml => .yaml
  | .json => .json

/-- The format of a file: JSON if its extension says so, otherwise YAML. -/
def ofPath (path : String) : DocumentFormat :=
  match Files.extension? path with
  | some extension =>
    if extension.toList.map Char.toLower = "json".toList then .json else .yaml
  | none => .yaml

def decode {α : Type} (format : DocumentFormat) (decoder : Document.Decoder α) (text : String) :
    Except Complaint α :=
  match format with
  | .json => Json.decode decoder (Text.symbolsOfText text)
  | .yaml => (Yaml.read text.toList).decode .yaml none decoder

end DocumentFormat

/-- Why there is no topology. -/
inductive TopologyError where
  | unreadable (path : String) (fault : Files.ReadFault)
  | undecodable (format : DocumentFormat) (complaint : Complaint)
  | invalid (violation : Violation)
deriving DecidableEq, Repr

def TopologyError.message : TopologyError → String
  | .unreadable path fault => "Failed to read topology " ++ path ++ ": " ++ fault.message
  | .undecodable format complaint =>
    "Failed to parse topology: " ++ complaint.message format.dialect
  | .invalid violation => "Invalid topology: " ++ violation.message

namespace Topology

/-- The topology of a text, if it is one and satisfies all that is checked. -/
def ofText (format : DocumentFormat) (text : String) : Except TopologyError Topology :=
  match format.decode Topology.decoder text with
  | .error complaint => .error (.undecodable format complaint)
  | .ok topology => match checkTopology topology with
    | .error violation => .error (.invalid violation)
    | .ok () => .ok topology

def ofContent (path : String) (content : Except Files.ReadFault (List UInt8)) :
    Except TopologyError Topology :=
  match content with
  | .error fault => .error (.unreadable path fault)
  | .ok bytes => match Text.decodeStrict? bytes with
    | none => .error (.unreadable path .notText)
    | some text => ofText (.ofPath path) text

end Topology

end PolicyRollout
