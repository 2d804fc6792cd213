import PolicyRollout.Proofs.Network.CidrText
import PolicyRollout.Proofs.Network.Sources
import PolicyRollout.Proofs.Plan.WellFormed
/-!
Networks are sent as they are written.  A network may be written with a plus sign before its prefix
length, which CIDR notation does not have, and is sent with it; of a topology that passes, every
network sent without that sign is in CIDR notation.
-/
namespace PolicyRollout

open Network (Cidr IsNetwork IsSource IsSourceList sourceItems)

def listedNetworks (s : String) : List String :=
  (sourceItems s).filter fun item => '/' ∈ item.toList

def Variables.networks : Variables → List String
  | .webServer v => listedNetworks v.allowedSources ++ listedNetworks v.sshSources
  | .microservice v => [v.monitoringSubnet]
  | .databaseServer v => [v.appSubnet]
  | .zeroTrust _ => []

theorem isNetwork_of_listed {s item : String} (hs : IsSourceList s)
    (hitem : item ∈ listedNetworks s) : IsNetwork item := by
  obtain ⟨hmem, hslash⟩ := List.mem_filter.mp hitem
  have hsource := Network.isSourceList_iff.mp hs item hmem
  rwa [IsSource, if_pos (of_decide_eq_true hslash)] at hsource

/-- Given or left to the default, the networks sent for an entity are networks. -/
theorem Entity.Valid.isNetwork_of_sent {e : Entity} (he : e.Valid) {ctx : TierContext}
    (hctx : ctx.Sound) {s : String} (hs : s ∈ (e.vars ctx).networks) : IsNetwork s := by
  cases e with
  | server e =>
      have he : e.Valid := he
      rcases List.mem_append.mp hs with hallowed | hssh
      · exact isNetwork_of_listed
          (getD_of_forall he.allowedSources Defaults.allowedSources_passes) hallowed
      · exact isNetwork_of_listed (getD_of_forall he.sshSources Defaults.sshSources_passes) hssh
  | service e =>
      obtain rfl := List.mem_singleton.mp hs
      exact hctx.monitoringSubnet
  | database e =>
      have he : e.Valid := he
      obtain rfl := List.mem_singleton.mp hs
      exact he.appSubnet
  | resource e => cases hs

namespace Topology

theorem Valid.isNetwork_of_sent {t : Topology} (ht : t.Valid) {p : Instantiation}
    (hp : p ∈ t.plan) {s : String} (hs : s ∈ p.vars.networks) : IsNetwork s := by
  obtain ⟨tier, htier, e, he, rfl⟩ := mem_plan_iff.mp hp
  have htierValid := ht.tiers tier htier
  exact (htierValid.entities e he).isNetwork_of_sent htierValid.context_sound hs

/-- Networks are read from texts in CIDR notation and from such texts with one plus sign before the
prefix length.  They hold one slash, no other sign and no blank, and those without a plus sign are
in CIDR notation; so are, of a topology that passes, all networks sent without one. -/
theorem networks_written_iff_unsigned (s : String) (c : Cidr) :
    (Cidr.parse s = .ok c ↔ c.Written s ∨ c.Signed s) ∧
    (Cidr.parse s = .ok c → (c.Written s ↔ '+' ∉ s.toList) ∧ s.toList.count '/' = 1 ∧
      ∀ x ∈ s.toList, x ≠ '-' ∧ Text.isBlank x = false) ∧
    ∀ t : Topology, checkTopology t = .ok () → ∀ p ∈ t.plan, ∀ sent ∈ p.vars.networks,
      IsNetwork sent ∧ ((∃ d : Cidr, d.Written sent) ↔ '+' ∉ sent.toList) := by
  refine ⟨Cidr.parse_eq_ok_iff, fun hread => ?_, fun t ht p hp sent hsent => ?_⟩
  · exact ⟨Cidr.written_iff_plus_not_mem hread, Cidr.count_slash_of_parse hread,
      fun x hx => Cidr.clean_of_parse hread hx⟩
  · have hnetwork := (checkTopology_eq_ok_iff.mp ht).isNetwork_of_sent hp hsent
    refine ⟨hnetwork, fun ⟨d, hwritten⟩ => hwritten.plus_not_mem, fun hplus => ?_⟩
    obtain ⟨d, hread⟩ := hnetwork
    exact ⟨d, (Cidr.written_iff_plus_not_mem hread).mpr hplus⟩

/-- A list of a network and a host, and a subnet. -/
def subnetted : Topology := ⟨[
  ⟨"web", "ls-web", none, none, .servers [
    ⟨"front", "10.0.1.10", some "10.0.0.0/8, 192.0.2.7", none, none⟩]⟩,
  ⟨"data", "ls-data", none, none, .databases [
    ⟨"main", .redis, "10.2.0.1", none, "10.1.0.0/16", none, none, []⟩]⟩]⟩

theorem networks_written_subnetted :
    Cidr.Written ⟨.v4 ⟨10, 1, 0, 0⟩, 16⟩ "10.1.0.0/16" ∧ checkTopology subnetted = .ok () ∧
    ∃ p ∈ subnetted.plan, ∃ sent ∈ p.vars.networks, ∃ d : Cidr, d.Written sent := by
  have hread : Cidr.parse "10.1.0.0/16" = .ok ⟨.v4 ⟨10, 1, 0, 0⟩, 16⟩ := rfl
  have hcheck : checkTopology subnetted = .ok () := rfl
  have hp : ⟨"web", "ls-web", "front", "web-server", .webServer ⟨"10.0.1.10",
      "10.0.0.0/8, 192.0.2.7", true, Defaults.sshSources⟩⟩ ∈ subnetted.plan :=
    mem_plan_iff.mpr ⟨_, List.mem_cons_self, _, List.mem_cons_self, rfl⟩
  have hsent : "10.0.0.0/8" ∈ listedNetworks "10.0.0.0/8, 192.0.2.7" ++
      listedNetworks Defaults.sshSources := List.mem_append_left _ (by decide)
  obtain ⟨_, haccepted, hplans⟩ := networks_written_iff_unsigned "10.1.0.0/16" _
  exact ⟨(haccepted hread).1.mpr (by decide), hcheck, _, hp, _, hsent,
    (hplans subnetted hcheck _ hp _ hsent).2.mpr (by decide)⟩

/-- A database whose subnet is written with a plus sign. -/
def signedSubnet : Topology := ⟨[
  ⟨"data", "ls-data", none, none, .databases [
    ⟨"main", .redis, "10.2.0.1", none, "10.1.0.0/+16", none, none, []⟩]⟩]⟩

/-- A network with a plus sign in it is read, passes in a topology, and is sent. -/
theorem networks_signed :
    Cidr.parse "10.1.0.0/+16" = .ok ⟨.v4 ⟨10, 1, 0, 0⟩, 16⟩ ∧
    (¬ ∃ c : Cidr, c.Written "10.1.0.0/+16") ∧ checkTopology signedSubnet = .ok () ∧
    ∃ p ∈ signedSubnet.plan, "10.1.0.0/+16" ∈ p.vars.networks := by
  have hp : ⟨"data", "ls-data", "main", "database-server", .databaseServer
      ⟨"10.2.0.1", 6379, "10.1.0.0/+16", none, false, ""⟩⟩ ∈ signedSubnet.plan :=
    mem_plan_iff.mpr ⟨_, List.mem_cons_self, _, List.mem_cons_self, rfl⟩
  have hunwritten : ¬ ∃ c : Cidr, c.Written "10.1.0.0/+16" := by
    rintro ⟨c, hwritten⟩
    exact hwritten.plus_not_mem (by decide)
  exact ⟨rfl, hunwritten, rfl, _, hp, List.mem_singleton.mpr rfl⟩

end Topology

end PolicyRollout
