import PolicyRollout.Document.Record
/-!
Answers to instantiations.  An instantiated template comes with its rules, a
dry run with a preview of them.  Rules and all members that are not known are
kept exactly as they came.
-/
namespace PolicyRollout

open Document (Decoder Field Fields)
open Json (Value)

abbrev Rule := Value

namespace Rule

def textMember (name : String) (r : Rule) : Option String := do
  let v ← r.get? name
  v.string?

def priority (r : Rule) : Option Int := do
  let v ← r.get? "priority"
  v.int64?

end Rule

structure TemplateInstance where
  rules : List Rule
  others : Json.Entries
deriving BEq, Repr

/-- The answer to an instantiation. -/
structure Creation where
  inst : Option TemplateInstance
  preview : Option (List Rule)
  others : Json.Entries
deriving BEq, Repr

namespace TemplateInstance

def fields : Fields [List Rule] :=
  .cons (.withDefault "rules" [] (Document.list Document.value)) .nil

def decoder : Decoder TemplateInstance :=
  Document.openRecord "struct TemplateInstance" fields fun (rules, ()) others => ⟨rules, others⟩

def toJson (i : TemplateInstance) : Value :=
  .object (("rules", .array i.rules) :: i.others)

end TemplateInstance

namespace Creation

def fields : Fields [Option TemplateInstance, Option (List Rule)] :=
  .cons (.maybe "instance" TemplateInstance.decoder) <|
  .cons (.maybe "preview" (Document.list Document.value)) .nil

def decoder : Decoder Creation :=
  Document.openRecord "struct InstantiationResult" fields
    fun (inst, preview, ()) others => ⟨inst, preview, others⟩

def toJson (c : Creation) : Value :=
  .object ((c.inst.map fun i => ("instance", i.toJson)).toList ++
    (c.preview.map fun rules => ("preview", .array rules)).toList ++ c.others)

/-- The answer that holds an instance of some rules and nothing else. -/
def ofRules (rules : List Rule) : Creation :=
  ⟨some ⟨rules, []⟩, none, []⟩

/-- The rules that were created, or would be. -/
def rules (c : Creation) : List Rule :=
  match c.inst, c.preview with
  | some i, _ => i.rules
  | none, some preview => preview
  | none, none => []

def ruleCount (c : Creation) : Nat :=
  c.rules.length

end Creation

end PolicyRollout
