import PolicyRollout.Proofs.Document.Assured
import PolicyRollout.Proofs.Http.Bodies
import PolicyRollout.Proofs.Network.CidrRange
import PolicyRollout.Proofs.Plan.WellFormed
import PolicyRollout.Proofs.Topology.RoundTrip
import PolicyRollout.Topology.Reference
/-!
Topologies from documents are representable: their ports have 16 bits, and their engines are such
as a name stands for.  So are the variables that are planned for them, defaults included, and
nothing is lost when they are sent.
-/
namespace PolicyRollout

open Document (Assures Fields assures_record nat16 naturalUpTo_le)

theorem nat16_assures : Assures nat16 (· ≤ 65535) :=
  fun _ _ _ => naturalUpTo_le

theorem Engine.decoder_assures :
    Assures Engine.decoder fun engine => ∃ name, engine = .parse name := by
  intro s node engine hread
  obtain ⟨name, _, hparse⟩ := Document.bind_eq_ok_iff.mp hread
  exact ⟨name, (Except.ok.inj hparse).symm⟩

theorem Service.decoder_assures :
    Assures Service.decoder fun e => (Entity.service e).Representable := by
  apply assures_record
  intro row hcan
  simp only [Service.fields, Fields.canBe_cons_iff] at hcan
  obtain ⟨_, _, hport, _⟩ := hcan
  exact nat16_assures.maybe hport

theorem Database.decoder_assures :
    Assures Database.decoder fun e => (Entity.database e).Representable := by
  apply assures_record
  intro row hcan
  simp only [Database.fields, Fields.canBe_cons_iff] at hcan
  obtain ⟨_, hengine, _, hport, _⟩ := hcan
  exact ⟨nat16_assures.maybe hport, Engine.decoder_assures.required hengine⟩

theorem Resource.decoder_assures :
    Assures Resource.decoder fun e => (Entity.resource e).Representable := by
  apply assures_record
  intro row hcan
  simp only [Resource.fields, Fields.canBe_cons_iff] at hcan
  obtain ⟨_, _, hport, _⟩ := hcan
  exact nat16_assures.required hport

/-- The entities of all lists that a written tier has are representable. -/
def TierDocument.Representable (d : TierDocument) : Prop :=
  ∀ entities ∈ d.lists, ∀ e ∈ entities.toList, e.Representable

theorem TierDocument.decoder_assures : Assures TierDocument.decoder TierDocument.Representable := by
  apply assures_record
  intro row hcan
  simp only [TierDocument.fields, Fields.canBe_cons_iff] at hcan
  obtain ⟨_, _, _, _, _, hservices, hdatabases, hresources, _⟩ := hcan
  have hservices := Service.decoder_assures.list.maybe hservices
  have hdatabases := Database.decoder_assures.list.maybe hdatabases
  have hresources := Resource.decoder_assures.list.maybe hresources
  intro entities hentities e he
  simp only [TierDocument.lists, List.mem_append, Option.mem_toList, Option.map_eq_some_iff]
    at hentities
  rcases hentities with ((⟨list, hlist, rfl⟩ | ⟨list, hlist, rfl⟩) | ⟨list, hlist, rfl⟩) |
    ⟨list, hlist, rfl⟩
  · obtain ⟨server, _, rfl⟩ := List.mem_map.mp he
    exact trivial
  · obtain ⟨service, hservice, rfl⟩ := List.mem_map.mp he
    exact hservices list hlist service hservice
  · obtain ⟨database, hdatabase, rfl⟩ := List.mem_map.mp he
    exact hdatabases list hlist database hdatabase
  · obtain ⟨resource, hresource, rfl⟩ := List.mem_map.mp he
    exact hresources list hlist resource hresource

theorem Tier.decoder_assures :
    Assures Tier.decoder fun tier => ∀ e ∈ tier.entities.toList, e.Representable := by
  intro s node tier hread
  obtain ⟨d, hd, hread⟩ := Document.bind_eq_ok_iff.mp hread
  have hrepresentable := TierDocument.decoder_assures s node d hd
  unfold TierDocument.Representable at hrepresentable
  unfold TierDocument.toTier at hread
  rcases hlists : d.lists with _ | ⟨entities, _ | ⟨other, rest⟩⟩
  · simp [hlists] at hread
  · simp only [hlists] at hread
    obtain rfl := Except.ok.inj hread
    exact hrepresentable entities (hlists ▸ List.mem_cons_self)
  · simp [hlists] at hread

namespace Topology

theorem decoder_assures : Assures Topology.decoder Topology.Representable := by
  apply assures_record
  intro row hcan
  simp only [Topology.fields, Fields.canBe_cons_iff] at hcan
  exact Tier.decoder_assures.list.required hcan.1

/-- A topology that is read from a document, of whatever format, is representable. -/
theorem representable_of_decode {format : DocumentFormat} {text : String} {t : Topology}
    (hdecode : format.decode Topology.decoder text = .ok t) : t.Representable := by
  cases format with
  | json => exact decoder_assures.source hdecode
  | yaml => exact decoder_assures.source hdecode

theorem Representable.portsFit {t : Topology} (ht : t.Representable) : t.PortsFit := by
  intro tier htier e he
  have hrepresentable := ht tier htier e he
  cases e with
  | server e => simp [Entity.port?]
  | service e => exact hrepresentable
  | database e => exact hrepresentable.1
  | resource e =>
      rintro _ ⟨rfl⟩
      exact hrepresentable

end Topology

theorem Entity.vars_representable {e : Entity} (hfit : ∀ port ∈ e.port?, port ≤ 65535)
    (ctx : TierContext) : (e.vars ctx).Representable := by
  cases e with
  | server e => exact trivial
  | service e => exact getD_of_forall hfit Defaults.servicePort_passes.2
  | database e => exact getD_of_forall hfit e.engine.defaultPort_passes.2
  | resource e => exact hfit e.port rfl

/-- What is planned for a topology whose ports fit can be sent without loss. -/
theorem Topology.PortsFit.representable_of_mem_plan {t : Topology} (ht : t.PortsFit)
    {p : Instantiation} (hp : p ∈ t.plan) : p.vars.Representable := by
  obtain ⟨tier, htier, e, he, rfl⟩ := mem_plan_iff.mp hp
  exact Entity.vars_representable (ht tier htier e he) _

theorem Reference.topology_representable : Reference.topology.Representable := by
  have hpostgreSql : ∃ name, Engine.postgreSql = .parse name := ⟨"postgresql", by decide⟩
  have hmySql : ∃ name, Engine.mySql = .parse name := ⟨"mysql", by decide⟩
  have hredis : ∃ name, Engine.redis = .parse name := ⟨"redis", by decide⟩
  simp [Topology.Representable, topology, web, application, data, secure, tier, webServer, service,
    resource, Entities.toList, Entity.Representable, hpostgreSql, hmySql, hredis]

end PolicyRollout
