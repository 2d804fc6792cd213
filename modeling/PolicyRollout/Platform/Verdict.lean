import PolicyRollout.Document.Record
/-!
Verdicts on variables.  The errors of a verdict may be given as a list, as an
object of one message for each field, or not at all; they are always kept as a
list, those of an object in the byte order of the fields.
-/
namespace PolicyRollout

open Document (Decoder Field Fields)
open Json (Value)

/-- What the platform says about variables. -/
structure Verdict where
  valid : Bool
  errors : List String
  warnings : List String
deriving DecidableEq, Repr

namespace Verdict

/-- The variables are good. -/
def accepted : Verdict := ⟨true, [], []⟩

/-- The variables are refused. -/
def rejected (errors : List String) : Verdict := ⟨false, errors, []⟩

/-- Messages by field, with one more in the order of the fields; of two for
one field the later is kept. -/
def insertMessage (field message : String) :
    List (String × String) → List (String × String)
  | [] => [(field, message)]
  | (f, m) :: rest =>
    if field < f then (field, message) :: (f, m) :: rest
    else if field = f then (field, message) :: rest
    else (f, m) :: insertMessage field message rest

/-- The messages of an object, by field. -/
def readMessages (s : Document.Setting) : List (Document.Node × Document.Node) →
    List (String × String) → Except Document.Complaint (List (String × String))
  | [], messages => .ok messages
  | (key, node) :: entries, messages => do
    let field ← Document.text s key
    let message ← Document.text s node
    readMessages s entries (insertMessage field message messages)

/-- The errors an object lists. -/
def errorsOfMapping : Decoder (List String) := fun s node =>
  match node with
  | .mapping entries _ => do
    let messages ← readMessages s entries []
    return messages.map fun (field, message) => field ++ ": " ++ message
  | _ => Document.unexpected "a map" s node

/-- The errors of a verdict; the whole of them is read before its form is looked at. -/
def errorsDecoder : Decoder (List String) := fun s node => do
  let given ← Document.optional Document.value s node
  match given with
  | none => return []
  | some _ =>
    match Document.list Document.text s node with
    | .ok errors => return errors
    | .error _ => match errorsOfMapping s node with
      | .ok errors => return errors
      | .error _ => s.complain (.noVariant "Errors")

def fields : Fields [Bool, List String, List String] :=
  .cons (.required "valid" Document.flag) <|
  .cons (.withDefault "errors" [] errorsDecoder) <|
  .cons (.withDefault "warnings" [] (Document.list Document.text)) .nil

def decoder : Decoder Verdict :=
  Document.record "struct ValidationResult" fields
    fun (valid, errors, warnings, ()) => ⟨valid, errors, warnings⟩

/-- A verdict as JSON; warnings are left out when there are none. -/
def toJson (v : Verdict) : Value :=
  .object ([("valid", .bool v.valid), ("errors", .strings v.errors)] ++
    (if v.warnings.isEmpty then [] else [("warnings", .strings v.warnings)]))

end Verdict

end PolicyRollout
