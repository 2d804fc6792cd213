import PolicyRollout.Network.Cidr
import PolicyRollout.Topology.Basic
/-!
What a topology must satisfy before it is used: names are there and differ,
every tier has a switch, and all addresses, networks and ports are well
formed.  The first violation is reported.  Dependencies on unknown services
are no violation; they are dropped when variables are built.
-/
namespace PolicyRollout

open Network (NetworkError)

/-- What is wrong with a topology. -/
inductive Violation where
  | emptyTierName
  | duplicateTier (tier : String)
  | missingSwitch (tier : String)
  | emptyEntityName (tier : String)
  | duplicateEntity (tier entity : String)
  | invalidAddress (tier entity field : String) (source : NetworkError)
deriving DecidableEq, Repr

def Violation.message : Violation → String
  | .emptyTierName => "Tier name must not be empty"
  | .duplicateTier tier => "Duplicate tier name: " ++ tier
  | .missingSwitch tier => "Tier '" ++ tier ++ "' has no target switch"
  | .emptyEntityName tier => "Tier '" ++ tier ++ "' contains an entity without a name"
  | .duplicateEntity tier entity =>
    "Duplicate entity '" ++ entity ++ "' in tier '" ++ tier ++ "'"
  | .invalidAddress tier entity field source =>
    "Entity '" ++ entity ++ "' in tier '" ++ tier ++ "' has invalid " ++ field ++ ": " ++
      source.message

/-- A field that does not hold what it should, and why. -/
structure FieldError where
  field : String
  source : NetworkError
deriving DecidableEq, Repr

/-- A check on a field; what it returns does not matter. -/
def checkField {α : Type} (field : String) (check : Except NetworkError α) :
    Except FieldError Unit :=
  match check with
  | .ok _ => .ok ()
  | .error source => .error ⟨field, source⟩

/-- A check on a field that may be absent. -/
def checkOptional {α β : Type} (field : String) (check : α → Except NetworkError β) :
    Option α → Except FieldError Unit
  | some v => checkField field (check v)
  | none => .ok ()

/-- A check on every item of a field. -/
def checkEach {α β : Type} (field : String) (check : α → Except NetworkError β) :
    List α → Except FieldError Unit
  | [] => .ok ()
  | v :: rest => do
    checkField field (check v)
    checkEach field check rest

/-- The fields of an entity besides its host address. -/
def checkDetails : Entity → Except FieldError Unit
  | .server e => do
    checkOptional "allowed_sources" Network.checkSourceList e.allowedSources
    checkOptional "ssh_sources" Network.checkSourceList e.sshSources
  | .service e => checkOptional "port" Network.checkPort e.port
  | .database e => do
    checkOptional "port" Network.checkPort e.port
    checkField "app_subnet" (Network.Cidr.parse e.appSubnet)
    checkOptional "backup_server" Network.parseHost e.backupServer
    checkEach "replicas" Network.parseHost e.replicas
  | .resource e => do
    checkField "port" (Network.checkPort e.port)
    checkEach "authorized_users" Network.parseHost e.authorizedUsers

/-- The addresses, networks and ports of an entity. -/
def checkEntity (e : Entity) : Except FieldError Unit := do
  checkField "ip" (Network.parseHost e.ip)
  checkDetails e

/-- Entities in turn; `seen` holds the names of those before. -/
def checkEntities (tier : String) : (seen : List String) → List Entity → Except Violation Unit
  | _, [] => .ok ()
  | seen, e :: rest =>
    if Text.isBlankText e.name then .error (.emptyEntityName tier)
    else if e.name ∈ seen then .error (.duplicateEntity tier e.name)
    else match checkEntity e with
      | .error f => .error (.invalidAddress tier e.name f.field f.source)
      | .ok () => checkEntities tier (e.name :: seen) rest

def checkTier (t : Tier) : Except Violation Unit :=
  if Text.isBlankText t.switch then .error (.missingSwitch t.name)
  else match checkOptional "monitoring_subnet" Network.Cidr.parse t.monitoringSubnet with
    | .error f => .error (.invalidAddress t.name t.name f.field f.source)
    | .ok () => checkEntities t.name [] t.entities.toList

/-- Tiers in turn; `seen` holds the names of those before. -/
def checkTiers : (seen : List String) → List Tier → Except Violation Unit
  | _, [] => .ok ()
  | seen, t :: rest =>
    if Text.isBlankText t.name then .error .emptyTierName
    else if t.name ∈ seen then .error (.duplicateTier t.name)
    else do
      checkTier t
      checkTiers (t.name :: seen) rest

def checkTopology (t : Topology) : Except Violation Unit :=
  checkTiers [] t.tiers

end PolicyRollout
