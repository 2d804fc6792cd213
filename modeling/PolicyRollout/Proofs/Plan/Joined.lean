import PolicyRollout.Proofs.Plan.Directory
import PolicyRollout.Proofs.Topology.Validity
/-!
Addresses joined by commas.  A host is neither empty nor holds a comma, so splitting the joined
text gives the hosts back and nothing but no host at all is joined to the empty text.  Thus what is
sent for a database, a resource or a service tells the list it was built from.
-/
namespace PolicyRollout

namespace Network

def commaParts (s : String) : List String :=
  (splitCommas s.toList).map String.ofList

theorem splitCommas_eq_splitOn (cs : List Char) : splitCommas cs = cs.splitOn ',' := by
  induction cs with
  | nil => rfl
  | cons c rest ih =>
      rw [splitCommas, ih, List.splitOn, List.splitOn, List.splitOnP_cons_eq_if_modifyHead]
      by_cases hc : c = ','
      · simp [hc]
      · obtain ⟨part, parts, hrest⟩ :=
          List.exists_cons_of_ne_nil (List.splitOnP_ne_nil (· == ',') rest)
        simp [hc, hrest]

end Network

open Network (IsHost commaParts)

section Joining

variable {addresses first second : List String} {joined : String}

theorem commaParts_joinAddresses (hne : addresses ≠ [])
    (hcomma : ∀ a ∈ addresses, ',' ∉ a.toList) :
    commaParts (joinAddresses addresses) = addresses := by
  have hne' : addresses.map String.toList ≠ [] := by simpa using hne
  have hcomma' : ∀ l ∈ addresses.map String.toList, ',' ∉ l := by simpa using hcomma
  have hsplit := List.splitOn_intercalate ',' hcomma' hne'
  rw [commaParts, Network.splitCommas_eq_splitOn, joinAddresses, String.toList_intercalate]
  change ((([','].intercalate (addresses.map String.toList)).splitOn ',').map String.ofList) = _
  rw [hsplit, List.map_map]
  simp [Function.comp_def]

/-- A joined text tells the list it was joined from. -/
structure Tells (joined : String) (addresses : List String) : Prop where
  parts : addresses ≠ [] → commaParts joined = addresses
  empty_iff : joined = "" ↔ addresses = []

theorem joinAddresses_tells (hhosts : ∀ a ∈ addresses, IsHost a) :
    Tells (joinAddresses addresses) addresses := by
  have hparts : addresses ≠ [] → commaParts (joinAddresses addresses) = addresses := fun hne =>
    commaParts_joinAddresses hne fun a ha => (hhosts a ha).comma_not_mem
  refine ⟨hparts, fun hempty => ?_, fun hnil => by rw [hnil]; rfl⟩
  -- The empty text has one part, which is empty and therefore no host.
  by_contra hne
  have hone : commaParts "" = addresses := hempty ▸ hparts hne
  exact (hhosts "" (hone ▸ List.mem_singleton.mpr rfl)).ne_empty rfl

theorem Tells.unique (hfirst : Tells joined first) (hsecond : Tells joined second) :
    first = second := by
  by_cases hempty : joined = ""
  · rw [hfirst.empty_iff.mp hempty, hsecond.empty_iff.mp hempty]
  · have hfirst' := hfirst.parts fun hnil => hempty (hfirst.empty_iff.mpr hnil)
    have hsecond' := hsecond.parts fun hnil => hempty (hsecond.empty_iff.mpr hnil)
    exact hfirst'.symm.trans hsecond'

end Joining

/-- Every text joined for an entity of a tier tells the list it was joined from. -/
structure Tier.TellsLists (t : Tier) : Prop where
  replicas : ∀ e, .database e ∈ t.entities.toList → Tells e.vars.replicaIps e.replicas
  users : ∀ e, .resource e ∈ t.entities.toList → Tells e.vars.authorizedUsers e.authorizedUsers
  services : ∀ e, .service e ∈ t.entities.toList →
    Tells (e.vars (.ofTier t)).allowedServices
      ((TierContext.ofTier t).directory.resolve e.dependencies)

namespace Tier.Valid

variable {t : Tier} (ht : t.Valid)

include ht

/-- Dependencies are resolved to hosts. -/
theorem isHost_of_resolved {names : List String} {ip : String}
    (hip : ip ∈ (TierContext.ofTier t).directory.resolve names) : IsHost ip := by
  obtain ⟨s, hs, rfl⟩ := exists_service_of_resolved hip
  exact (show s.Valid from ht.entities _ hs).ip

theorem tellsLists : t.TellsLists where
  replicas e he := joinAddresses_tells (show e.Valid from ht.entities _ he).replicas
  users e he := joinAddresses_tells (show e.Valid from ht.entities _ he).authorizedUsers
  services _ _ := joinAddresses_tells fun _ hip => ht.isHost_of_resolved hip

end Tier.Valid

/-- In a topology that passes, every joined text tells its list; so entities of topologies that
pass, be they one or two, have the same list when they have the same text. -/
theorem joined_texts_tell_lists (t t' : Topology) (ht : checkTopology t = .ok ())
    (ht' : checkTopology t' = .ok ()) :
    (∀ tier ∈ t.tiers, tier.TellsLists) ∧
    ∀ tier ∈ t.tiers, ∀ tier' ∈ t'.tiers,
      (∀ e e', .database e ∈ tier.entities.toList → .database e' ∈ tier'.entities.toList →
        e.vars.replicaIps = e'.vars.replicaIps → e.replicas = e'.replicas) ∧
      (∀ e e', .resource e ∈ tier.entities.toList → .resource e' ∈ tier'.entities.toList →
        e.vars.authorizedUsers = e'.vars.authorizedUsers →
        e.authorizedUsers = e'.authorizedUsers) ∧
      ∀ e e', .service e ∈ tier.entities.toList → .service e' ∈ tier'.entities.toList →
        (e.vars (.ofTier tier)).allowedServices = (e'.vars (.ofTier tier')).allowedServices →
        (TierContext.ofTier tier).directory.resolve e.dependencies =
          (TierContext.ofTier tier').directory.resolve e'.dependencies := by
  have htells : ∀ tier ∈ t.tiers, tier.TellsLists := fun tier htier =>
    ((checkTopology_eq_ok_iff.mp ht).tiers tier htier).tellsLists
  have htells' : ∀ tier ∈ t'.tiers, tier.TellsLists := fun tier htier =>
    ((checkTopology_eq_ok_iff.mp ht').tiers tier htier).tellsLists
  refine ⟨htells, fun tier htier tier' htier' => ⟨?_, ?_, ?_⟩⟩
  · intro e e' he he' hsame
    exact ((htells tier htier).replicas e he).unique
      (hsame ▸ (htells' tier' htier').replicas e' he')
  · intro e e' he he' hsame
    exact ((htells tier htier).users e he).unique (hsame ▸ (htells' tier' htier').users e' he')
  · intro e e' he he' hsame
    exact ((htells tier htier).services e he).unique
      (hsame ▸ (htells' tier' htier').services e' he')

/-- Lists of two addresses, some with blanks around them, and a dependency that is dropped. -/
def Topology.linked : Topology := ⟨[
  ⟨"app", "ls-app", none, none, .services [
    ⟨"api", "10.1.0.1", none, ["store", "gone", "api"]⟩, ⟨"store", " 10.1.0.2", some 90, []⟩]⟩,
  ⟨"data", "ls-data", none, none, .databases [
    ⟨"main", .redis, "10.2.0.1", none, "10.1.0.0/16", none, none, ["10.2.0.2", "::1 "]⟩]⟩,
  ⟨"vault", "ls-vault", none, none, .resources [
    ⟨"keys", "10.3.0.1", 8200, ["10.4.0.1", "10.4.0.2"], none⟩]⟩]⟩

theorem checkTopology_linked : checkTopology .linked = .ok () := rfl

theorem joined_texts_tell_lists_linked : checkTopology .linked = .ok () ∧
    Tells " 10.1.0.2,10.1.0.1" [" 10.1.0.2", "10.1.0.1"] ∧
    Tells "10.2.0.2,::1 " ["10.2.0.2", "::1 "] ∧
    Tells "10.4.0.1,10.4.0.2" ["10.4.0.1", "10.4.0.2"] := by
  obtain ⟨htells, _⟩ := joined_texts_tell_lists .linked .linked checkTopology_linked
    checkTopology_linked
  rw [Topology.linked, List.forall_mem_cons, List.forall_mem_cons, List.forall_mem_cons] at htells
  obtain ⟨happ, hdata, hvault, _⟩ := htells
  exact ⟨checkTopology_linked, happ.services _ List.mem_cons_self,
    hdata.replicas _ List.mem_cons_self, hvault.users _ List.mem_cons_self⟩

end PolicyRollout
