import PolicyRollout.Document.Record
/-!
Options of a deployment and the settings of its connection to the platform, as
they are written in documents.
-/
namespace PolicyRollout

open Document (Decoder Field Fields)
open Json (Value)

structure DeploymentOptions where
  /-- Only ask which rules would be created. -/
  dryRun : Bool
  /-- How many entities of a tier may be under way at once; none counts as one. -/
  entityConcurrency : Nat
  /-- Ask first whether all templates are published. -/
  verifyTemplates : Bool
deriving DecidableEq, Repr

namespace DeploymentOptions

/-- One entity at a time, for real and without asking first. -/
def standard : DeploymentOptions := ⟨false, 1, false⟩

/-- How many entities of a tier may be under way at once. -/
def window (o : DeploymentOptions) : Nat :=
  max 1 o.entityConcurrency

def toJson (o : DeploymentOptions) : Value :=
  .object [("dry_run", .bool o.dryRun), ("entity_concurrency", .nat o.entityConcurrency),
    ("verify_templates", .bool o.verifyTemplates)]

def fields : Fields [Bool, Nat, Bool] :=
  .cons (.withDefault "dry_run" false Document.flag) <|
  .cons (.withDefault "entity_concurrency" 1 Document.count) <|
  .cons (.withDefault "verify_templates" false Document.flag) .nil

def decoder : Decoder DeploymentOptions :=
  Document.record "struct DeploymentOptions" fields
    fun (dryRun, entityConcurrency, verifyTemplates, ()) =>
      ⟨dryRun, entityConcurrency, verifyTemplates⟩

end DeploymentOptions

structure ServiceSettings where
  baseUrl : String
  apiToken : String
  timeoutSeconds : Nat
deriving DecidableEq, Repr

namespace ServiceSettings

/-- The seconds after which a call is given up, unless set otherwise. -/
def defaultTimeout : Nat := 30

def toJson (s : ServiceSettings) : Value :=
  .object [("base_url", .string s.baseUrl), ("api_token", .string s.apiToken),
    ("timeout_secs", .nat s.timeoutSeconds)]

def fields : Fields [String, String, Nat] :=
  .cons (.required "base_url" Document.text) <| .cons (.required "api_token" Document.text) <|
  .cons (.withDefault "timeout_secs" defaultTimeout Document.nat64) .nil

def decoder : Decoder ServiceSettings :=
  Document.record "struct TemplateServiceConfig" fields
    fun (baseUrl, apiToken, timeoutSeconds, ()) => ⟨baseUrl, apiToken, timeoutSeconds⟩

end ServiceSettings

end PolicyRollout
