import PolicyRollout.Topology.Basic
/-!
Topologies inside documents: what is written and what is read, side by side.
Attributes that are absent are not written, lists always are.  A tier is read
as a record with four possible entity lists, of which exactly one must be
present.
-/
namespace PolicyRollout

open Document (Decoder Field Fields)
open Json (Value)

/-- A member that is written only when it is there. -/
def optionalMember {α : Type} (name : String) (write : α → Value) : Option α → Json.Entries
  | some v => [(name, write v)]
  | none => []

namespace Server

def toJson (e : Server) : Value :=
  .object ([("name", .string e.name), ("ip", .string e.ip)] ++
    optionalMember "allowed_sources" .string e.allowedSources ++
    optionalMember "enable_ssh" .bool e.enableSsh ++
    optionalMember "ssh_sources" .string e.sshSources)

def fields : Fields [String, String, Option String, Option Bool, Option String] :=
  .cons (.required "name" Document.text) <| .cons (.required "ip" Document.text) <|
  .cons (.maybe "allowed_sources" Document.text) <| .cons (.maybe "enable_ssh" Document.flag) <|
  .cons (.maybe "ssh_sources" Document.text) .nil

def decoder : Decoder Server :=
  Document.record "struct Server" fields
    fun (name, ip, allowedSources, enableSsh, sshSources, ()) =>
      ⟨name, ip, allowedSources, enableSsh, sshSources⟩

end Server

namespace Service

def toJson (e : Service) : Value :=
  .object ([("name", .string e.name), ("ip", .string e.ip)] ++
    optionalMember "port" .nat e.port ++
    [("dependencies", .strings e.dependencies)])

def fields : Fields [String, String, Option Nat, List String] :=
  .cons (.required "name" Document.text) <| .cons (.required "ip" Document.text) <|
  .cons (.maybe "port" Document.nat16) <|
  .cons (.withDefault "dependencies" [] (Document.list Document.text)) .nil

def decoder : Decoder Service :=
  Document.record "struct Service" fields
    fun (name, ip, port, dependencies, ()) => ⟨name, ip, port, dependencies⟩

end Service

namespace Database

def toJson (e : Database) : Value :=
  .object ([("name", .string e.name), ("type", .string e.engine.name), ("ip", .string e.ip)] ++
    optionalMember "port" .nat e.port ++
    [("app_subnet", .string e.appSubnet)] ++
    optionalMember "backup_server" .string e.backupServer ++
    optionalMember "enable_replication" .bool e.enableReplication ++
    [("replicas", .strings e.replicas)])

def fields : Fields
    [String, Engine, String, Option Nat, String, Option String, Option Bool, List String] :=
  .cons (.required "name" Document.text) <| .cons (.required "type" Engine.decoder) <|
  .cons (.required "ip" Document.text) <| .cons (.maybe "port" Document.nat16) <|
  .cons (.required "app_subnet" Document.text) <|
  .cons (.maybe "backup_server" Document.text) <|
  .cons (.maybe "enable_replication" Document.flag) <|
  .cons (.withDefault "replicas" [] (Document.list Document.text)) .nil

def decoder : Decoder Database :=
  Document.record "struct Database" fields
    fun (name, engine, ip, port, appSubnet, backupServer, enableReplication, replicas, ()) =>
      ⟨name, engine, ip, port, appSubnet, backupServer, enableReplication, replicas⟩

end Database

namespace Resource

def toJson (e : Resource) : Value :=
  .object ([("name", .string e.name), ("ip", .string e.ip), ("port", .nat e.port),
      ("authorized_users", .strings e.authorizedUsers)] ++
    optionalMember "require_encryption" .bool e.requireEncryption)

def fields : Fields [String, String, Nat, List String, Option Bool] :=
  .cons (.required "name" Document.text) <| .cons (.required "ip" Document.text) <|
  .cons (.required "port" Document.nat16) <|
  .cons (.required "authorized_users" (Document.list Document.text)) <|
  .cons (.maybe "require_encryption" Document.flag) .nil

def decoder : Decoder Resource :=
  Document.record "struct SecureResource" fields
    fun (name, ip, port, authorizedUsers, requireEncryption, ()) =>
      ⟨name, ip, port, authorizedUsers, requireEncryption⟩

end Resource

namespace TierKind

def ofName? (name : String) : Option TierKind :=
  all.find? (·.name = name)

/-- A kind in a document that is a JSON value: its name, or an object whose
one member has that name and is null. -/
def decoder : Decoder TierKind := fun s node =>
  let named (name : String) : Except Document.Complaint TierKind :=
    match ofName? name with
    | some kind => .ok kind
    | none => s.complain (.unknownVariant name (all.map TierKind.name))
  match node with
  | .scalar sc => match sc.text? with
    | some name => named name
    | none => Document.unexpected "string or map" s node
  | .mapping [(key, content)] none => do
    let kind ← named (← Document.text s key)
    match content with
    | .scalar sc =>
      if sc.found = .unit then return kind else Document.unexpected "unit" s content
    | _ => Document.unexpected "unit" s content
  | .mapping .. => s.complain (.invalidValue .mapping "map with a single key")
  | _ => Document.unexpected "string or map" s node

end TierKind

namespace Entities

/-- The entity list of a tier as a JSON member. -/
def toMember : Entities → String × Value
  | .servers list => ("servers", .array (list.map Server.toJson))
  | .services list => ("services", .array (list.map Service.toJson))
  | .databases list => ("databases", .array (list.map Database.toJson))
  | .resources list => ("resources", .array (list.map Resource.toJson))

end Entities

/-- A tier as it is written in a document: any of the four lists may be there. -/
structure TierDocument where
  name : String
  switch : String
  monitoringSubnet : Option String
  template : Option String
  servers : Option (List Server)
  services : Option (List Service)
  databases : Option (List Database)
  resources : Option (List Resource)
deriving DecidableEq, Repr

/-- What is wrong with the entity lists of a tier. -/
inductive TierShapeError where
  | noEntities (tier : String)
  | severalKinds (tier : String)
deriving DecidableEq, Repr

def TierShapeError.message : TierShapeError → String
  | .noEntities tier =>
    "tier '" ++ tier ++ "' lists no servers, services, databases or resources"
  | .severalKinds tier => "tier '" ++ tier ++ "' lists more than one entity kind"

namespace TierDocument

def lists (d : TierDocument) : List Entities :=
  (d.servers.map Entities.servers).toList ++ (d.services.map Entities.services).toList ++
    (d.databases.map Entities.databases).toList ++ (d.resources.map Entities.resources).toList

/-- The tier, if exactly one entity list is there. -/
def toTier (d : TierDocument) : Except TierShapeError Tier :=
  match d.lists with
  | [] => .error (.noEntities d.name)
  | [entities] => .ok ⟨d.name, d.switch, d.monitoringSubnet, d.template, entities⟩
  | _ => .error (.severalKinds d.name)

def fields : Fields [String, String, Option String, Option String, Option (List Server),
    Option (List Service), Option (List Database), Option (List Resource)] :=
  .cons (.required "name" Document.text) <| .cons (.required "switch" Document.text) <|
  .cons (.maybe "monitoring_subnet" Document.text) <| .cons (.maybe "template" Document.text) <|
  .cons (.maybe "servers" (Document.list Server.decoder)) <|
  .cons (.maybe "services" (Document.list Service.decoder)) <|
  .cons (.maybe "databases" (Document.list Database.decoder)) <|
  .cons (.maybe "resources" (Document.list Resource.decoder)) .nil

/-- A tier as it is written. -/
def decoder : Decoder TierDocument :=
  Document.record "struct TierDocument" fields
    fun (name, switch, monitoringSubnet, template, servers, services, databases, resources, ()) =>
      ⟨name, switch, monitoringSubnet, template, servers, services, databases, resources⟩

end TierDocument

namespace Tier

def toJson (t : Tier) : Value :=
  .object ([("name", .string t.name), ("switch", .string t.switch)] ++
    optionalMember "monitoring_subnet" .string t.monitoringSubnet ++
    optionalMember "template" .string t.template ++ [t.entities.toMember])

def decoder : Decoder Tier := fun s node => do
  let written ← TierDocument.decoder s node
  match written.toTier with
  | .ok tier => return tier
  | .error e => .error ⟨.refused e.message, none⟩

end Tier

namespace Topology

def toJson (t : Topology) : Value :=
  .object [("tiers", .array (t.tiers.map Tier.toJson))]

def fields : Fields [List Tier] :=
  .cons (.required "tiers" (Document.list Tier.decoder)) .nil

/-- A topology as a document. -/
def decoder : Decoder Topology :=
  Document.record "struct Topology" fields fun (tiers, ()) => ⟨tiers⟩

end Topology

end PolicyRollout
