import PolicyRollout.Topology.Format
/-!
Variables of policy templates: one record for each template kind, holding
texts, numbers and truth values only, and the JSON object in which they are
sent.
-/
namespace PolicyRollout

open Document (Decoder Field Fields)
open Json (Value)

structure WebServerVariables where
  serverIp : String
  allowedSources : String
  enableSsh : Bool
  sshSources : String
deriving DecidableEq, Repr

structure MicroserviceVariables where
  serviceName : String
  serviceIp : String
  servicePort : Nat
  /-- The addresses of the services it depends on, joined by commas. -/
  allowedServices : String
  monitoringSubnet : String
deriving DecidableEq, Repr

structure DatabaseServerVariables where
  dbIp : String
  dbPort : Nat
  appSubnet : String
  backupServer : Option String
  enableReplication : Bool
  /-- The addresses of the replicas, joined by commas. -/
  replicaIps : String
deriving DecidableEq, Repr

structure ZeroTrustVariables where
  resourceIp : String
  resourcePort : Nat
  /-- The addresses of the authorized users, joined by commas. -/
  authorizedUsers : String
  requireEncryption : Bool
deriving DecidableEq, Repr

inductive Variables where
  | webServer (v : WebServerVariables)
  | microservice (v : MicroserviceVariables)
  | databaseServer (v : DatabaseServerVariables)
  | zeroTrust (v : ZeroTrustVariables)
deriving DecidableEq, Repr

namespace WebServerVariables

def toEntries (v : WebServerVariables) : Json.Entries :=
  [("server_ip", .string v.serverIp), ("allowed_sources", .string v.allowedSources),
    ("enable_ssh", .bool v.enableSsh), ("ssh_sources", .string v.sshSources)]

def fields : Fields [String, String, Bool, String] :=
  .cons (.required "server_ip" Document.text) <|
  .cons (.required "allowed_sources" Document.text) <|
  .cons (.required "enable_ssh" Document.flag) <|
  .cons (.required "ssh_sources" Document.text) .nil

def decoder : Decoder WebServerVariables :=
  Document.record "struct WebServerVariables" fields
    fun (serverIp, allowedSources, enableSsh, sshSources, ()) =>
      ⟨serverIp, allowedSources, enableSsh, sshSources⟩

end WebServerVariables

namespace MicroserviceVariables

def toEntries (v : MicroserviceVariables) : Json.Entries :=
  [("service_name", .string v.serviceName), ("service_ip", .string v.serviceIp),
    ("service_port", .nat v.servicePort), ("allowed_services", .string v.allowedServices),
    ("monitoring_subnet", .string v.monitoringSubnet)]

def fields : Fields [String, String, Nat, String, String] :=
  .cons (.required "service_name" Document.text) <|
  .cons (.required "service_ip" Document.text) <|
  .cons (.required "service_port" Document.nat16) <|
  .cons (.required "allowed_services" Document.text) <|
  .cons (.required "monitoring_subnet" Document.text) .nil

def decoder : Decoder MicroserviceVariables :=
  Document.record "struct MicroserviceVariables" fields
    fun (serviceName, serviceIp, servicePort, allowedServices, monitoringSubnet, ()) =>
      ⟨serviceName, serviceIp, servicePort, allowedServices, monitoringSubnet⟩

end MicroserviceVariables

namespace DatabaseServerVariables

/-- The variables as JSON members; an absent backup server is null. -/
def toEntries (v : DatabaseServerVariables) : Json.Entries :=
  [("db_ip", .string v.dbIp), ("db_port", .nat v.dbPort), ("app_subnet", .string v.appSubnet),
    ("backup_server", .stringOrNull v.backupServer),
    ("enable_replication", .bool v.enableReplication), ("replica_ips", .string v.replicaIps)]

def fields : Fields [String, Nat, String, Option String, Bool, String] :=
  .cons (.required "db_ip" Document.text) <| .cons (.required "db_port" Document.nat16) <|
  .cons (.required "app_subnet" Document.text) <|
  .cons (.nullable "backup_server" Document.text) <|
  .cons (.required "enable_replication" Document.flag) <|
  .cons (.required "replica_ips" Document.text) .nil

def decoder : Decoder DatabaseServerVariables :=
  Document.record "struct DatabaseServerVariables" fields
    fun (dbIp, dbPort, appSubnet, backupServer, enableReplication, replicaIps, ()) =>
      ⟨dbIp, dbPort, appSubnet, backupServer, enableReplication, replicaIps⟩

end DatabaseServerVariables

namespace ZeroTrustVariables

def toEntries (v : ZeroTrustVariables) : Json.Entries :=
  [("resource_ip", .string v.resourceIp), ("resource_port", .nat v.resourcePort),
    ("authorized_users", .string v.authorizedUsers),
    ("require_encryption", .bool v.requireEncryption)]

def fields : Fields [String, Nat, String, Bool] :=
  .cons (.required "resource_ip" Document.text) <|
  .cons (.required "resource_port" Document.nat16) <|
  .cons (.required "authorized_users" Document.text) <|
  .cons (.required "require_encryption" Document.flag) .nil

def decoder : Decoder ZeroTrustVariables :=
  Document.record "struct ZeroTrustVariables" fields
    fun (resourceIp, resourcePort, authorizedUsers, requireEncryption, ()) =>
      ⟨resourceIp, resourcePort, authorizedUsers, requireEncryption⟩

end ZeroTrustVariables

namespace Variables

def kind : Variables → TierKind
  | .webServer _ => .web
  | .microservice _ => .application
  | .databaseServer _ => .data
  | .zeroTrust _ => .secure

/-- The variables as JSON members, in the order of their record. -/
def toEntries : Variables → Json.Entries
  | .webServer v => v.toEntries
  | .microservice v => v.toEntries
  | .databaseServer v => v.toEntries
  | .zeroTrust v => v.toEntries

/-- The JSON object in which the variables are sent. -/
def toJson (v : Variables) : Value :=
  .object v.toEntries

/-- The variables as JSON members, in the order of their names. -/
def toMap (v : Variables) : Json.Entries :=
  Json.Entries.sorted v.toEntries

/-- The host address the variables are about. -/
def ip : Variables → String
  | .webServer v => v.serverIp
  | .microservice v => v.serviceIp
  | .databaseServer v => v.dbIp
  | .zeroTrust v => v.resourceIp

/-- The variables for a kind of tier inside a document. -/
def decoderFor : TierKind → Decoder Variables
  | .web => fun s node => .webServer <$> WebServerVariables.decoder s node
  | .application => fun s node => .microservice <$> MicroserviceVariables.decoder s node
  | .data => fun s node => .databaseServer <$> DatabaseServerVariables.decoder s node
  | .secure => fun s node => .zeroTrust <$> ZeroTrustVariables.decoder s node

end Variables

end PolicyRollout
