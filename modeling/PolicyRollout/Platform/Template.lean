import PolicyRollout.Document.Record
/-!
Templates as the platform publishes them: their variables, the skeletons of
their rules, and metadata of any form.
-/
namespace PolicyRollout

open Document (Decoder Field Fields)
open Json (Value)

structure VariableSpec where
  name : String
  description : String
  valueType : String
  required : Bool
  /-- The value it has when none is sent, in any form. -/
  fallback : Option Value
  validation : Option String
  sample : Option String
deriving BEq, Repr

structure RuleSpec where
  name : String
  description : String
  priority : Int
  direction : String
  action : String
  condition : String
  log : Bool
deriving DecidableEq, Repr

structure TemplateDescriptor where
  id : String
  name : String
  description : String
  category : String
  tags : List String
  variableSpecs : List VariableSpec
  rules : List RuleSpec
  metadata : Json.Entries
deriving BEq, Repr

def Json.Value.int (n : Int) : Value :=
  .number (if n < 0 then .negative n.natAbs else .natural n.natAbs)

namespace VariableSpec

def toJson (v : VariableSpec) : Value :=
  .object ([("name", .string v.name), ("description", .string v.description),
      ("type", .string v.valueType), ("required", .bool v.required)] ++
    (v.fallback.map fun value => ("default", value)).toList ++
    (v.validation.map fun text => ("validation", .string text)).toList ++
    (v.sample.map fun text => ("example", .string text)).toList)

def fields : Fields
    [String, String, String, Bool, Option Value, Option String, Option String] :=
  .cons (.required "name" Document.text) <|
  .cons (.withDefault "description" "" Document.text) <|
  .cons (.withDefault "type" "" Document.text) <|
  .cons (.withDefault "required" false Document.flag) <|
  .cons (.maybe "default" Document.value) <|
  .cons (.maybe "validation" Document.text) <|
  .cons (.maybe "example" Document.text) .nil

def decoder : Decoder VariableSpec :=
  Document.record "struct TemplateVariableSpec" fields
    fun (name, description, valueType, required, fallback, validation, sample, ()) =>
      ⟨name, description, valueType, required, fallback, validation, sample⟩

end VariableSpec

namespace RuleSpec

def toJson (r : RuleSpec) : Value :=
  .object [("name", .string r.name), ("description", .string r.description),
    ("priority", .int r.priority), ("direction", .string r.direction),
    ("action", .string r.action), ("match", .string r.condition), ("log", .bool r.log)]

def fields : Fields [String, String, Int, String, String, String, Bool] :=
  .cons (.required "name" Document.text) <|
  .cons (.withDefault "description" "" Document.text) <|
  .cons (.withDefault "priority" 0 Document.int64) <|
  .cons (.withDefault "direction" "" Document.text) <|
  .cons (.withDefault "action" "" Document.text) <|
  .cons (.withDefault "match" "" Document.text) <|
  .cons (.withDefault "log" false Document.flag) .nil

def decoder : Decoder RuleSpec :=
  Document.record "struct TemplateRuleSpec" fields
    fun (name, description, priority, direction, action, condition, log, ()) =>
      ⟨name, description, priority, direction, action, condition, log⟩

end RuleSpec

namespace TemplateDescriptor

/-- A template of which only the id is known. -/
def ofId (id : String) : TemplateDescriptor :=
  ⟨id, "", "", "", [], [], [], []⟩

/-- A template as JSON; empty metadata is left out. -/
def toJson (t : TemplateDescriptor) : Value :=
  .object ([("id", .string t.id), ("name", .string t.name),
      ("description", .string t.description), ("category", .string t.category),
      ("tags", .strings t.tags), ("variables", .array (t.variableSpecs.map VariableSpec.toJson)),
      ("rules", .array (t.rules.map RuleSpec.toJson))] ++
    (if t.metadata.isEmpty then [] else [("metadata", .object t.metadata)]))

def fields : Fields [String, String, String, String, List String, List VariableSpec,
    List RuleSpec, Json.Entries] :=
  .cons (.required "id" Document.text) <|
  .cons (.withDefault "name" "" Document.text) <|
  .cons (.withDefault "description" "" Document.text) <|
  .cons (.withDefault "category" "" Document.text) <|
  .cons (.withDefault "tags" [] (Document.list Document.text)) <|
  .cons (.withDefault "variables" [] (Document.list VariableSpec.decoder)) <|
  .cons (.withDefault "rules" [] (Document.list RuleSpec.decoder)) <|
  .cons (.withDefault "metadata" [] Document.members) .nil

def decoder : Decoder TemplateDescriptor :=
  Document.record "struct TemplateDescriptor" fields
    fun (id, name, description, category, tags, variableSpecs, rules, metadata, ()) =>
      ⟨id, name, description, category, tags, variableSpecs, rules, metadata⟩

/-- The names of the variables that must be sent. -/
def requiredVariables (t : TemplateDescriptor) : List String :=
  (t.variableSpecs.filter (·.required)).map (·.name)

end TemplateDescriptor

/-- The answer to a listing: the templates under one name. -/
def templateListDecoder : Decoder (List TemplateDescriptor) :=
  Document.record "struct TemplateList"
    (.cons (.required "templates" (Document.list TemplateDescriptor.decoder)) .nil)
    fun (templates, ()) => templates

end PolicyRollout
