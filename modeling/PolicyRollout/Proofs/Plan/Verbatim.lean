import PolicyRollout.Proofs.Plan.WellFormed
import PolicyRollout.Topology.Reference
/-!
Hosts are sent as they are written.  Blanks around a host pass the check and are sent with it, so
of a topology that passes every host sent is an address as it stands exactly when none is written
with blanks around it.
-/
namespace PolicyRollout

open Network (IsHost IsAddress commaParts)

def listedHosts (s : String) : List String :=
  if s = "" then [] else commaParts s

theorem Tells.listedHosts_eq {joined : String} {addresses : List String}
    (h : Tells joined addresses) : listedHosts joined = addresses := by
  by_cases hempty : joined = ""
  · rw [listedHosts, if_pos hempty, h.empty_iff.mp hempty]
  · rw [listedHosts, if_neg hempty, h.parts fun hnil => hempty (h.empty_iff.mpr hnil)]

def Variables.hosts : Variables → List String
  | .webServer v => [v.serverIp]
  | .microservice v => v.serviceIp :: listedHosts v.allowedServices
  | .databaseServer v => v.dbIp :: (v.backupServer.toList ++ listedHosts v.replicaIps)
  | .zeroTrust v => v.resourceIp :: listedHosts v.authorizedUsers

/-- The hosts written for an entity. -/
def Entity.hosts : Entity → List String
  | .server e => [e.ip]
  | .service e => [e.ip]
  | .database e => e.ip :: (e.backupServer.toList ++ e.replicas)
  | .resource e => e.ip :: e.authorizedUsers

/-- The hosts that the dependencies of an entity stand for. -/
def Entity.resolved (ctx : TierContext) : Entity → List String
  | .service e => ctx.directory.resolve e.dependencies
  | _ => []

/-- No host is written with blanks around it. -/
def Topology.Trimmed (t : Topology) : Prop :=
  ∀ tier ∈ t.tiers, ∀ e ∈ tier.entities.toList, ∀ s ∈ e.hosts, Text.trim s = s

instance (t : Topology) : Decidable t.Trimmed :=
  inferInstanceAs (Decidable (∀ tier ∈ t.tiers, ∀ e ∈ tier.entities.toList, ∀ s ∈ e.hosts,
    Text.trim s = s))

/-- Every host in a plan is an address, with no blanks around it. -/
def SentVerbatim (plan : List Instantiation) : Prop :=
  ∀ p ∈ plan, ∀ s ∈ p.vars.hosts, IsAddress s ∧ Text.trim s = s

theorem Entity.Valid.isHost_of_mem {e : Entity} (he : e.Valid) {s : String} (hs : s ∈ e.hosts) :
    IsHost s := by
  cases e with
  | server e =>
      have he : e.Valid := he
      obtain rfl := List.mem_singleton.mp hs
      exact he.ip
  | service e =>
      have he : e.Valid := he
      obtain rfl := List.mem_singleton.mp hs
      exact he.ip
  | database e =>
      have he : e.Valid := he
      rw [hosts, List.mem_cons, List.mem_append, Option.mem_toList] at hs
      rcases hs with rfl | hbackup | hreplica
      · exact he.ip
      · exact he.backupServer s hbackup
      · exact he.replicas s hreplica
  | resource e =>
      have he : e.Valid := he
      rcases List.mem_cons.mp hs with rfl | huser
      · exact he.ip
      · exact he.authorizedUsers s huser

namespace Tier.Valid

variable {t : Tier} (ht : t.Valid)

include ht

/-- Sent for an entity are its own hosts and those its dependencies stand for. -/
theorem hosts_vars {e : Entity} (he : e ∈ t.entities.toList) :
    (e.vars (.ofTier t)).hosts = e.hosts ++ e.resolved (.ofTier t) := by
  cases e with
  | server e => rfl
  | service e => exact congrArg (e.ip :: ·) (ht.tellsLists.services e he).listedHosts_eq
  | database e =>
      have hreplicas := (ht.tellsLists.replicas e he).listedHosts_eq
      simp only [Entity.vars, Variables.hosts, hreplicas, Entity.resolved, List.append_nil]
      rfl
  | resource e =>
      have husers := (ht.tellsLists.users e he).listedHosts_eq
      simp only [Entity.vars, Variables.hosts, husers, Entity.resolved, List.append_nil]
      rfl

/-- Whatever host is sent for an entity is written for an entity of the same tier. -/
theorem exists_written {e : Entity} (he : e ∈ t.entities.toList) {s : String}
    (hs : s ∈ (e.vars (.ofTier t)).hosts) : ∃ own ∈ t.entities.toList, s ∈ own.hosts := by
  rw [ht.hosts_vars he, List.mem_append] at hs
  rcases hs with hown | hresolved
  · exact ⟨e, he, hown⟩
  · cases e with
    | service e =>
        obtain ⟨service, hservice, rfl⟩ := exists_service_of_resolved hresolved
        exact ⟨.service service, hservice, List.mem_singleton.mpr rfl⟩
    | server e => contradiction
    | database e => contradiction
    | resource e => contradiction

end Tier.Valid

namespace Topology

namespace Valid

variable {t : Topology} (ht : t.Valid)

include ht

/-- The hosts that are sent are those that are written. -/
theorem sent_iff_written {s : String} : (∃ p ∈ t.plan, s ∈ p.vars.hosts) ↔
    ∃ tier ∈ t.tiers, ∃ e ∈ tier.entities.toList, s ∈ e.hosts := by
  constructor
  · rintro ⟨p, hp, hs⟩
    obtain ⟨tier, htier, e, he, rfl⟩ := mem_plan_iff.mp hp
    exact ⟨tier, htier, (ht.tiers tier htier).exists_written he hs⟩
  · rintro ⟨tier, htier, e, he, hs⟩
    have hsent : s ∈ (e.vars (.ofTier tier)).hosts := by
      rw [(ht.tiers tier htier).hosts_vars he]
      exact List.mem_append_left _ hs
    exact ⟨e.instantiation (.ofTier tier), mem_plan_iff.mpr ⟨tier, htier, e, he, rfl⟩, hsent⟩

theorem isHost_of_sent {p : Instantiation} (hp : p ∈ t.plan) {s : String}
    (hs : s ∈ p.vars.hosts) : IsHost s := by
  obtain ⟨tier, htier, e, he, hs⟩ := ht.sent_iff_written.mp ⟨p, hp, hs⟩
  exact ((ht.tiers tier htier).entities e he).isHost_of_mem hs

theorem sentVerbatim_iff : SentVerbatim t.plan ↔ t.Trimmed := by
  constructor
  · intro hsent tier htier e he s hs
    obtain ⟨p, hp, hs⟩ := ht.sent_iff_written.mpr ⟨tier, htier, e, he, hs⟩
    exact (hsent p hp s hs).2
  · intro htrimmed p hp s hs
    have hhost := ht.isHost_of_sent hp hs
    obtain ⟨tier, htier, e, he, hs⟩ := ht.sent_iff_written.mp ⟨p, hp, hs⟩
    have htrim := htrimmed tier htier e he s hs
    exact ⟨Network.isAddress_iff.mpr ⟨hhost, htrim⟩, htrim⟩

end Valid

/-- Of a topology that passes, every host that is sent is an address once it is trimmed, and all
are addresses as they are sent exactly when none is written with blanks around it. -/
theorem sent_verbatim_iff_trimmed (t : Topology) (ht : checkTopology t = .ok ()) :
    (∀ p ∈ t.plan, ∀ s ∈ p.vars.hosts, IsAddress (Text.trim s)) ∧
    (SentVerbatim t.plan ↔ t.Trimmed) := by
  have hvalid := checkTopology_eq_ok_iff.mp ht
  exact ⟨fun p hp s hs => Network.isHost_iff.mp (hvalid.isHost_of_sent hp hs),
    hvalid.sentVerbatim_iff⟩

/-- The hosts of the built-in topology are sent as addresses. -/
theorem sent_verbatim_reference : checkTopology Reference.topology = .ok () ∧
    Reference.topology.Trimmed ∧ SentVerbatim Reference.topology.plan := by
  have hcheck : checkTopology Reference.topology = .ok () := rfl
  have htrimmed : Reference.topology.Trimmed := by decide
  exact ⟨hcheck, htrimmed, (sent_verbatim_iff_trimmed _ hcheck).2.mpr htrimmed⟩

/-- A server whose host is written with a blank on either side. -/
def padded : Topology :=
  ⟨[⟨"web", "ls-web", none, none, .servers [⟨"front", " 10.0.1.10 ", none, none, none⟩]⟩]⟩

/-- A host with blanks around it passes, and is sent with them. -/
theorem padded_not_sent_verbatim : checkTopology padded = .ok () ∧ ¬ SentVerbatim padded.plan := by
  have hcheck : checkTopology padded = .ok () := rfl
  have hblanks : ¬ padded.Trimmed := by decide
  have hvalid := checkTopology_eq_ok_iff.mp hcheck
  exact ⟨hcheck, fun hsent => hblanks (hvalid.sentVerbatim_iff.mp hsent)⟩

end Topology

end PolicyRollout
