import PolicyRollout.Proofs.Deployment.Preflight
import PolicyRollout.Proofs.Plan.WellFormed
import PolicyRollout.Topology.Load
/-!
What the preflight asks for beside what a deployment uses.  Every tier asks for its template, and
a tier uses its template as often as it has entities.  So all that is used is asked for, and what
is asked for in vain is the template of a tier without entities that no other tier uses.
-/
namespace PolicyRollout

/-- The template of an instantiation of the plan. -/
def Topology.Uses (t : Topology) (id : String) : Prop :=
  ∃ p ∈ t.plan, p.templateId = id

/-- The template of a tier that has no entities. -/
def Topology.Idles (t : Topology) (id : String) : Prop :=
  ∃ tier ∈ t.tiers, tier.entities.toList = [] ∧ tier.templateId = id

namespace Topology

variable {t : Topology} {id : String} {published : List TemplateDescriptor}

/-- Used are the templates of the tiers that have entities. -/
theorem uses_iff : t.Uses id ↔
    ∃ tier ∈ t.tiers, tier.entities.toList ≠ [] ∧ tier.templateId = id := by
  constructor
  · rintro ⟨p, hp, rfl⟩
    obtain ⟨tier, htier, e, he, rfl⟩ := mem_plan_iff.mp hp
    exact ⟨tier, htier, List.ne_nil_of_mem he, rfl⟩
  · rintro ⟨tier, htier, hentities, rfl⟩
    obtain ⟨e, he⟩ := List.exists_mem_of_ne_nil _ hentities
    exact ⟨e.instantiation (.ofTier tier), mem_plan_iff.mpr ⟨tier, htier, e, he, rfl⟩, rfl⟩

theorem mem_templateIds_iff_uses_or_idles : id ∈ t.templateIds ↔ t.Uses id ∨ t.Idles id := by
  rw [mem_templateIds, uses_iff]
  constructor
  · rintro ⟨tier, htier, hid⟩
    by_cases hentities : tier.entities.toList = []
    · exact Or.inr ⟨tier, htier, hentities, hid⟩
    · exact Or.inl ⟨tier, htier, hentities, hid⟩
  · rintro (⟨tier, htier, _, hid⟩ | ⟨tier, htier, _, hid⟩)
    · exact ⟨tier, htier, hid⟩
    · exact ⟨tier, htier, hid⟩

/-- Nothing is asked for in vain exactly if every tier without entities has a template in use. -/
theorem templateIds_eq_uses_iff :
    (∀ id, id ∈ t.templateIds ↔ t.Uses id) ↔ ∀ id, t.Idles id → t.Uses id := by
  constructor
  · intro hequal id hidles
    exact (hequal id).mp (mem_templateIds_iff_uses_or_idles.mpr (Or.inr hidles))
  · intro hidles id
    rw [mem_templateIds_iff_uses_or_idles]
    exact or_iff_left_of_imp (hidles id)

theorem misses_iff : t.Misses published id ↔
    (t.Uses id ∨ t.Idles id) ∧ ∀ d ∈ published, d.id ≠ id := by
  rw [Misses, ← mem_templateIds, mem_templateIds_iff_uses_or_idles]

/-- The preflight passes exactly if no template that is used or idle is missing. -/
theorem missingTemplate_eq_none_iff_published :
    Rollout.missingTemplate t published = none ↔
      ∀ id, t.Uses id ∨ t.Idles id → ∃ d ∈ published, d.id = id := by
  rw [Rollout.missingTemplate_eq_none_iff_misses]
  apply forall_congr'
  intro id
  rw [misses_iff, not_and]
  simp

/-- Of every topology: the templates asked for are those its plan uses and those of its tiers
without entities, and they are those its plan uses exactly if every tier without entities has a
template in use.  For every list of published templates the preflight therefore passes exactly if
both kinds are published.  It passes no topology whose plan uses a template that is not; where
every tier without entities has a template in use, it refuses none whose plan uses published
templates only. -/
theorem templateIds_plan (t : Topology) :
    (∀ id, id ∈ t.templateIds ↔ t.Uses id ∨ t.Idles id) ∧
    ((∀ id, id ∈ t.templateIds ↔ t.Uses id) ↔ ∀ id, t.Idles id → t.Uses id) ∧
    ∀ published, (Rollout.missingTemplate t published = none ↔
      (∀ id, t.Uses id → ∃ d ∈ published, d.id = id) ∧
      ∀ id, t.Idles id → ∃ d ∈ published, d.id = id) := by
  refine ⟨fun id => mem_templateIds_iff_uses_or_idles, templateIds_eq_uses_iff, ?_⟩
  intro published
  rw [missingTemplate_eq_none_iff_published]
  constructor
  · intro hall
    exact ⟨fun id huses => hall id (Or.inl huses), fun id hidles => hall id (Or.inr hidles)⟩
  · rintro ⟨huses, hidles⟩ id (hid | hid)
    · exact huses id hid
    · exact hidles id hid

end Topology

namespace Catalogue

/-- A web server, and beside it a tier without servers that names a template of its own. -/
def halfBuilt : Topology :=
  ⟨[⟨"web", "ls-web", none, none, .servers [⟨"front", "10.0.1.10", none, none, none⟩]⟩,
    ⟨"jump", "ls-jump", none, some "Bastion", .servers []⟩]⟩

def halfBuiltText : String :=
  "\x7b\"tiers\":[\x7b\"name\":\"web\",\"switch\":\"ls-web\",\"servers\":" ++
    "[\x7b\"name\":\"front\",\"ip\":\"10.0.1.10\"\x7d]\x7d,\x7b\"name\":\"jump\"," ++
    "\"switch\":\"ls-jump\",\"template\":\"Bastion\",\"servers\":[]\x7d]\x7d"

theorem halfBuilt_loads : Topology.ofText .json halfBuiltText = .ok halfBuilt := by
  decide +kernel

/-- All that is used is published, and the deployment is refused for want of a template that
nothing uses. -/
theorem halfBuilt_refused :
    Topology.ofText .json halfBuiltText = .ok halfBuilt ∧
    (∀ id, halfBuilt.Uses id → ∃ d ∈ published ["web-server"], d.id = id) ∧
    ¬ (∀ id, id ∈ halfBuilt.templateIds ↔ halfBuilt.Uses id) ∧
    ((Rollout.start (Rollout.verifying options) stamp halfBuilt []).run (platform ["web-server"])
      [0, 0, 0, 0]).RefusedFor options stamp (.unknownTemplate "Bastion") := by
  have huses : ∀ id, halfBuilt.Uses id → id = "web-server" := by
    intro id hid
    obtain ⟨tier, htier, hentities, rfl⟩ := Topology.uses_iff.mp hid
    rcases List.mem_cons.mp htier with rfl | htier
    · rfl
    · obtain rfl := List.mem_singleton.mp htier
      exact absurd rfl hentities
  have hneeded : "Bastion" ∈ halfBuilt.templateIds := by decide +kernel
  refine ⟨halfBuilt_loads, ?_, ?_, ?_⟩
  · intro id hid
    obtain rfl := huses id hid
    exact ⟨_, List.mem_cons_self, rfl⟩
  · intro hequal
    have hbastion := huses "Bastion" ((hequal "Bastion").mp hneeded)
    contradiction
  · apply Rollout.run_refusedFor
    decide +kernel

end Catalogue

end PolicyRollout
