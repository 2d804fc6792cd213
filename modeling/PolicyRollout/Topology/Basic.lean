import PolicyRollout.Number.Basic
import PolicyRollout.Topology.Engine
/-!
Topologies.  A topology is an ordered list of tiers; a tier names the logical
switch its rules attach to and holds entities of one kind.  Attributes that
were not written stay absent, and defaults are supplied where variables are
built.
-/
namespace PolicyRollout

structure Server where
  name : String
  ip : String
  allowedSources : Option String
  enableSsh : Option Bool
  sshSources : Option String
deriving DecidableEq, Repr

/-- A service; its dependencies name services of the same tier. -/
structure Service where
  name : String
  ip : String
  port : Option Nat
  dependencies : List String
deriving DecidableEq, Repr

structure Database where
  name : String
  engine : Engine
  ip : String
  port : Option Nat
  appSubnet : String
  backupServer : Option String
  enableReplication : Option Bool
  replicas : List String
deriving DecidableEq, Repr

/-- A resource that only authorized users may reach. -/
structure Resource where
  name : String
  ip : String
  port : Nat
  authorizedUsers : List String
  requireEncryption : Option Bool
deriving DecidableEq, Repr

/-- The kinds of tiers, in deployment order. -/
inductive TierKind where
  | web
  | application
  | data
  | secure
deriving DecidableEq, Repr

namespace TierKind

/-- The place of a kind in the deployment order. -/
def rank : TierKind → Nat
  | .web => 0
  | .application => 1
  | .data => 2
  | .secure => 3

/-- All kinds, in deployment order. -/
def all : List TierKind := [.web, .application, .data, .secure]

def name : TierKind → String
  | .web => "web"
  | .application => "application"
  | .data => "data"
  | .secure => "secure"

/-- The template for entities of a kind, unless their tier names another. -/
def defaultTemplate : TierKind → String
  | .web => "web-server"
  | .application => "microservice"
  | .data => "database-server"
  | .secure => "zero-trust"

end TierKind

inductive Entity where
  | server (e : Server)
  | service (e : Service)
  | database (e : Database)
  | resource (e : Resource)
deriving DecidableEq, Repr

def Entity.name : Entity → String
  | .server e => e.name
  | .service e => e.name
  | .database e => e.name
  | .resource e => e.name

/-- The host address of an entity, as written. -/
def Entity.ip : Entity → String
  | .server e => e.ip
  | .service e => e.ip
  | .database e => e.ip
  | .resource e => e.ip

/-- The entities of a tier, all of one kind. -/
inductive Entities where
  | servers (list : List Server)
  | services (list : List Service)
  | databases (list : List Database)
  | resources (list : List Resource)
deriving DecidableEq, Repr

namespace Entities

def kind : Entities → TierKind
  | .servers _ => .web
  | .services _ => .application
  | .databases _ => .data
  | .resources _ => .secure

def toList : Entities → List Entity
  | .servers list => list.map .server
  | .services list => list.map .service
  | .databases list => list.map .database
  | .resources list => list.map .resource

def size (entities : Entities) : Nat :=
  entities.toList.length

end Entities

/-- A group of entities that share one switch. -/
structure Tier where
  name : String
  switch : String
  /-- The subnet that monitors services, in place of the usual one. -/
  monitoringSubnet : Option String
  /-- The template for all entities, in place of that of their kind. -/
  template : Option String
  entities : Entities
deriving DecidableEq, Repr

def Tier.kind (t : Tier) : TierKind :=
  t.entities.kind

def Tier.templateId (t : Tier) : String :=
  t.template.getD t.kind.defaultTemplate

structure Topology where
  tiers : List Tier
deriving DecidableEq, Repr

/-- A text among texts in increasing order, once. -/
def insertText (text : String) : List String → List String
  | [] => [text]
  | t :: rest =>
    if text < t then text :: t :: rest
    else if text = t then t :: rest
    else t :: insertText text rest

/-- The texts in increasing order, each once. -/
def textSet (texts : List String) : List String :=
  texts.foldl (fun set text => insertText text set) []

namespace Topology

/-- The tiers ordered by kind; tiers of one kind keep their document order. -/
def deploymentOrder (t : Topology) : List Tier :=
  t.tiers.mergeSort fun a b => a.kind.rank ≤ b.kind.rank

/-- The templates a deployment needs, in increasing order. -/
def templateIds (t : Topology) : List String :=
  textSet (t.tiers.map Tier.templateId)

def entityCount (t : Topology) : Nat :=
  total (t.tiers.map fun tier => tier.entities.size)

end Topology

end PolicyRollout
