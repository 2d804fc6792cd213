import PolicyRollout.Plan.Directory
import PolicyRollout.Plan.Variables
/-!
Plans.  The variables of an entity follow from the entity and its tier alone;
the plan of a topology lists, in deployment order, every instantiation a
deployment would ask for.
-/
namespace PolicyRollout

open Json (Value)

namespace Defaults

/-- Who may reach a web server. -/
def allowedSources : String := "0.0.0.0/0"

/-- Who may log in to a web server. -/
def sshSources : String := "10.0.100.0/24"

def servicePort : Nat := 8080

/-- Who monitors services. -/
def monitoringSubnet : String := "10.0.200.0/24"

end Defaults

/-- What the entities of a tier share. -/
structure TierContext where
  tier : String
  switch : String
  templateId : String
  monitoringSubnet : String
  directory : Directory
deriving DecidableEq, Repr

def TierContext.ofTier (t : Tier) : TierContext where
  tier := t.name
  switch := t.switch
  templateId := t.templateId
  monitoringSubnet := t.monitoringSubnet.getD Defaults.monitoringSubnet
  directory := match t.entities with
    | .services list => .ofServices list
    | _ => .empty

def joinAddresses (addresses : List String) : String :=
  ",".intercalate addresses

def Server.vars (e : Server) : WebServerVariables where
  serverIp := e.ip
  allowedSources := e.allowedSources.getD Defaults.allowedSources
  enableSsh := e.enableSsh.getD true
  sshSources := e.sshSources.getD Defaults.sshSources

def Service.vars (e : Service) (ctx : TierContext) : MicroserviceVariables where
  serviceName := e.name
  serviceIp := e.ip
  servicePort := e.port.getD Defaults.servicePort
  allowedServices := joinAddresses (ctx.directory.resolve e.dependencies)
  monitoringSubnet := ctx.monitoringSubnet

def Database.vars (e : Database) : DatabaseServerVariables where
  dbIp := e.ip
  dbPort := e.engine.resolvePort e.port
  appSubnet := e.appSubnet
  backupServer := e.backupServer
  enableReplication := e.enableReplication.getD false
  replicaIps := joinAddresses e.replicas

def Resource.vars (e : Resource) : ZeroTrustVariables where
  resourceIp := e.ip
  resourcePort := e.port
  authorizedUsers := joinAddresses e.authorizedUsers
  requireEncryption := e.requireEncryption.getD true

def Entity.vars (ctx : TierContext) : Entity → Variables
  | .server e => .webServer e.vars
  | .service e => .microservice (e.vars ctx)
  | .database e => .databaseServer e.vars
  | .resource e => .zeroTrust e.vars

/-- The dependencies of an entity that its tier does not list. -/
def Entity.unlistedDependencies (ctx : TierContext) : Entity → List String
  | .service e => ctx.directory.unlisted e.dependencies
  | _ => []

/-- The dependencies dropped from the plan of a tier, in their order. -/
def Tier.droppedDependencies (t : Tier) : List String :=
  t.entities.toList.flatMap (Entity.unlistedDependencies (.ofTier t))

/-- The dependencies dropped from the plan of a topology, in their order. -/
def Topology.droppedDependencies (t : Topology) : List String :=
  t.deploymentOrder.flatMap Tier.droppedDependencies

/-- One instantiation a deployment would ask for. -/
structure Instantiation where
  tier : String
  switch : String
  entity : String
  templateId : String
  vars : Variables
deriving DecidableEq, Repr

def Instantiation.toJson (p : Instantiation) : Value :=
  .object [("tier", .string p.tier), ("switch", .string p.switch), ("entity", .string p.entity),
    ("template_id", .string p.templateId), ("variables", p.vars.toJson)]

def Entity.instantiation (ctx : TierContext) (e : Entity) : Instantiation :=
  ⟨ctx.tier, ctx.switch, e.name, ctx.templateId, e.vars ctx⟩

/-- The instantiations of a tier, in entity order. -/
def Tier.plan (t : Tier) : List Instantiation :=
  let ctx := TierContext.ofTier t
  t.entities.toList.map (Entity.instantiation ctx)

/-- The instantiations of a topology, in deployment order. -/
def Topology.plan (t : Topology) : List Instantiation :=
  t.deploymentOrder.flatMap Tier.plan

end PolicyRollout
