import Mathlib.Data.List.Nodup
import PolicyRollout.Proofs.Plan.Joined
import PolicyRollout.Proofs.Topology.DeploymentOrder
/-!
What is planned for a topology that passes.  Each variable passes the check that its field in the
document passed: defaults pass it as well, and addresses that come from other entities passed it
there.  No entity of a tier is planned twice.
-/
namespace PolicyRollout

open Network (IsHost IsNetwork IsSourceList commaParts)

namespace Network

/-- A port that can be listened on. -/
def IsPort (port : Nat) : Prop := 1 ≤ port ∧ port ≤ 65535

/-- Hosts between commas, or nothing at all. -/
def IsHostList (s : String) : Prop := s = "" ∨ ∀ part ∈ commaParts s, IsHost part

end Network

open Network (IsPort IsHostList)

structure WebServerVariables.WellFormed (v : WebServerVariables) : Prop where
  serverIp : IsHost v.serverIp
  allowedSources : IsSourceList v.allowedSources
  sshSources : IsSourceList v.sshSources

structure MicroserviceVariables.WellFormed (v : MicroserviceVariables) : Prop where
  serviceIp : IsHost v.serviceIp
  servicePort : IsPort v.servicePort
  allowedServices : IsHostList v.allowedServices
  monitoringSubnet : IsNetwork v.monitoringSubnet

structure DatabaseServerVariables.WellFormed (v : DatabaseServerVariables) : Prop where
  dbIp : IsHost v.dbIp
  dbPort : IsPort v.dbPort
  appSubnet : IsNetwork v.appSubnet
  backupServer : ∀ s ∈ v.backupServer, IsHost s
  replicaIps : IsHostList v.replicaIps

structure ZeroTrustVariables.WellFormed (v : ZeroTrustVariables) : Prop where
  resourceIp : IsHost v.resourceIp
  resourcePort : IsPort v.resourcePort
  authorizedUsers : IsHostList v.authorizedUsers

def Variables.WellFormed : Variables → Prop
  | .webServer v => v.WellFormed
  | .microservice v => v.WellFormed
  | .databaseServer v => v.WellFormed
  | .zeroTrust v => v.WellFormed

/-- Nothing is planned without a tier, a switch and an entity to name, nor with variables that
the platform could not read. -/
structure Instantiation.WellFormed (p : Instantiation) : Prop where
  tier : Text.NonBlank p.tier
  switch : Text.NonBlank p.switch
  entity : Text.NonBlank p.entity
  vars : p.vars.WellFormed

/-- The tier and the entity an instantiation is for. -/
def Instantiation.key (p : Instantiation) : String × String :=
  (p.tier, p.entity)

def Entity.port? : Entity → Option Nat
  | .server _ => none
  | .service e => e.port
  | .database e => e.port
  | .resource e => some e.port

/-- Ports are numbers of 16 bits, as documents have them. -/
def Topology.PortsFit (t : Topology) : Prop :=
  ∀ tier ∈ t.tiers, ∀ e ∈ tier.entities.toList, ∀ port ∈ e.port?, port ≤ 65535

namespace Defaults

theorem allowedSources_passes : IsSourceList allowedSources := ⟨(), rfl⟩

theorem sshSources_passes : IsSourceList sshSources := ⟨(), rfl⟩

theorem monitoringSubnet_passes : IsNetwork monitoringSubnet := ⟨⟨.v4 ⟨10, 0, 200, 0⟩, 24⟩, rfl⟩

theorem servicePort_passes : IsPort servicePort := ⟨by decide, by decide⟩

end Defaults

theorem Engine.defaultPort_passes (engine : Engine) : IsPort engine.defaultPort := by
  cases engine <;> simp [IsPort, defaultPort, wellKnownPort, fallbackPort]

/-- Given or not, a value passes when all that is given does and the default does. -/
theorem getD_of_forall {α : Type} {P : α → Prop} {given : Option α} {default : α}
    (hgiven : ∀ v ∈ given, P v) (hdefault : P default) : P (given.getD default) := by
  cases given with
  | none => exact hdefault
  | some v => exact hgiven v rfl

theorem isPort_getD {given : Option Nat} {default : Nat} (hzero : ∀ port ∈ given, port ≠ 0)
    (hfit : ∀ port ∈ given, port ≤ 65535) (hdefault : IsPort default) :
    IsPort (given.getD default) :=
  getD_of_forall (fun port hport => ⟨Nat.pos_of_ne_zero (hzero port hport), hfit port hport⟩)
    hdefault

theorem joinAddresses_isHostList {addresses : List String} (hhosts : ∀ a ∈ addresses, IsHost a) :
    IsHostList (joinAddresses addresses) := by
  have htells := joinAddresses_tells hhosts
  by_cases hnil : addresses = []
  · exact Or.inl (htells.empty_iff.mpr hnil)
  · right
    rwa [htells.parts hnil]

/-- What the entities of a tier share passes the checks of their own fields. -/
structure TierContext.Sound (ctx : TierContext) : Prop where
  monitoringSubnet : IsNetwork ctx.monitoringSubnet
  resolved : ∀ names, ∀ ip ∈ ctx.directory.resolve names, IsHost ip

theorem Tier.Valid.context_sound {t : Tier} (ht : t.Valid) : (TierContext.ofTier t).Sound where
  monitoringSubnet := getD_of_forall ht.monitoringSubnet Defaults.monitoringSubnet_passes
  resolved _ _ hip := ht.isHost_of_resolved hip

theorem Entity.Valid.vars_wellFormed {e : Entity} (he : e.Valid) {ctx : TierContext}
    (hctx : ctx.Sound) (hfit : ∀ port ∈ e.port?, port ≤ 65535) : (e.vars ctx).WellFormed := by
  cases e with
  | server e =>
      have he : e.Valid := he
      exact {
        serverIp := he.ip
        allowedSources := getD_of_forall he.allowedSources Defaults.allowedSources_passes
        sshSources := getD_of_forall he.sshSources Defaults.sshSources_passes }
  | service e =>
      have he : e.Valid := he
      exact {
        serviceIp := he.ip
        servicePort := isPort_getD he.port hfit Defaults.servicePort_passes
        allowedServices := joinAddresses_isHostList (hctx.resolved e.dependencies)
        monitoringSubnet := hctx.monitoringSubnet }
  | database e =>
      have he : e.Valid := he
      exact {
        dbIp := he.ip
        dbPort := isPort_getD he.port hfit e.engine.defaultPort_passes
        appSubnet := he.appSubnet
        backupServer := he.backupServer
        replicaIps := joinAddresses_isHostList he.replicas }
  | resource e =>
      have he : e.Valid := he
      exact {
        resourceIp := he.ip
        resourcePort := ⟨Nat.pos_of_ne_zero he.port, hfit e.port rfl⟩
        authorizedUsers := joinAddresses_isHostList he.authorizedUsers }

namespace Topology

/-- The plan holds an instantiation for each entity of each tier and no other. -/
theorem mem_plan_iff {t : Topology} {p : Instantiation} : p ∈ t.plan ↔
    ∃ tier ∈ t.tiers, ∃ e ∈ tier.entities.toList, e.instantiation (.ofTier tier) = p := by
  simp only [plan, List.mem_flatMap, t.deploymentOrder_perm.mem_iff, Tier.plan, List.mem_map]

theorem Valid.keys_nodup {t : Topology} (ht : t.Valid) :
    (t.plan.map Instantiation.key).Nodup := by
  have hperm := t.deploymentOrder_perm
  have hkeys : ∀ tier : Tier, tier.plan.map Instantiation.key =
      (tier.entities.toList.map Entity.name).map (Prod.mk tier.name) := fun tier => by
    simp [Tier.plan, Instantiation.key, Entity.instantiation, TierContext.ofTier]
  rw [plan, List.map_flatMap, List.nodup_flatMap]
  constructor
  · intro tier htier
    rw [hkeys]
    exact (ht.tiers tier (hperm.mem_iff.mp htier)).distinct.map fun _ _ heq => (Prod.mk.inj heq).2
  · have hnames : (t.deploymentOrder.map Tier.name).Nodup :=
      (hperm.map Tier.name).nodup_iff.mpr ht.distinct
    rw [List.Nodup, List.pairwise_map] at hnames
    refine hnames.imp fun {first second} hne => ?_
    intro key (hfirst : key ∈ first.plan.map _) (hsecond : key ∈ second.plan.map _)
    rw [hkeys, List.mem_map] at hfirst hsecond
    obtain ⟨_, _, rfl⟩ := hfirst
    obtain ⟨_, _, hsame⟩ := hsecond
    exact hne (Prod.mk.inj hsame).1.symm

/-- All that is planned for a topology that passes is well formed and planned once. -/
theorem plan_wellFormed (t : Topology) (ht : checkTopology t = .ok ()) (hports : t.PortsFit) :
    ∀ p ∈ t.plan, p.WellFormed ∧ (t.plan.map Instantiation.key).count p.key = 1 := by
  have hvalid := checkTopology_eq_ok_iff.mp ht
  intro p hp
  have honce := List.count_eq_one_of_mem hvalid.keys_nodup (List.mem_map_of_mem hp)
  obtain ⟨tier, htier, e, he, rfl⟩ := mem_plan_iff.mp hp
  have htierValid := hvalid.tiers tier htier
  refine ⟨?_, honce⟩
  exact {
    tier := hvalid.named tier htier
    switch := htierValid.switch
    entity := htierValid.named e he
    vars := (htierValid.entities e he).vars_wellFormed htierValid.context_sound
      (hports tier htier e he) }

/-- A port left to the engine and two replicas, one of them with a blank after it. -/
theorem plan_wellFormed_linked :
    let p : Instantiation := ⟨"data", "ls-data", "main", "database-server",
      .databaseServer ⟨"10.2.0.1", 6379, "10.1.0.0/16", none, false, "10.2.0.2,::1 "⟩⟩
    checkTopology linked = .ok () ∧ linked.PortsFit ∧ p ∈ linked.plan ∧ p.WellFormed := by
  intro p
  have hports : linked.PortsFit := by
    simp [PortsFit, linked, Entities.toList, Entity.port?]
  have hp : p ∈ linked.plan := mem_plan_iff.mpr
    ⟨_, List.mem_cons_of_mem _ List.mem_cons_self, _, List.mem_cons_self, rfl⟩
  exact ⟨checkTopology_linked, hports, hp,
    (plan_wellFormed linked checkTopology_linked hports p hp).1⟩

end Topology

end PolicyRollout
