import PolicyRollout.Proofs.Deployment.Endings
import PolicyRollout.Proofs.Deployment.TierBarrier
import PolicyRollout.Proofs.Topology.TemplateIds
/-!
What gives a deployment up.  It is an answer that is an error, or a template
that the platform does not publish, and nothing else: entities that are refused
are counted and have no other effect.
-/
namespace PolicyRollout

namespace History

/-- A call was answered by an error. -/
def Erred (h : History) : Prop :=
  ∃ serial entity outturn, .answered serial entity outturn ∈ h ∧ outturn.isFailure = true

/-- The templates were listed, and that of a tier was not among them. -/
def Lacks (topology : Topology) (h : History) : Prop :=
  ∃ serial published, .answered serial none (.listed (.ok published)) ∈ h ∧
    ∃ tier ∈ topology.tiers, ∀ d ∈ published, d.id ≠ tier.templateId

/-- Every validation was answered and granted. -/
def Granted (h : History) : Prop :=
  ∀ serial index templateId vars, .called serial (some index) (.validate templateId vars) ∈ h →
    ∃ verdict, .answered serial (some index) (.judged (.ok verdict)) ∈ h ∧ verdict.valid = true

theorem Erred.of_fails {h : History} {index : Nat} (hfails : Fails index h) : h.Erred := by
  obtain ⟨serial, outturn, hanswer, hfailure⟩ := hfails
  exact ⟨serial, _, outturn, hanswer, hfailure⟩

theorem Erred.mono {part whole : History} (hsub : part ⊆ whole) (herred : part.Erred) :
    whole.Erred := by
  obtain ⟨serial, entity, outturn, hanswer, hfailure⟩ := herred
  exact ⟨serial, entity, outturn, hsub hanswer, hfailure⟩

theorem granted_iff_about {h : History} : h.Granted ↔ ∀ index, (h.about index).Granted := by
  constructor
  · intro hgranted index serial other templateId vars hcall
    obtain ⟨hmem, hentity⟩ := mem_about_iff.mp hcall
    obtain ⟨verdict, hanswer, hvalid⟩ := hgranted serial other templateId vars hmem
    exact ⟨verdict, mem_about_iff.mpr ⟨hanswer, hentity⟩, hvalid⟩
  · intro hgranted serial index templateId vars hcall
    obtain ⟨verdict, hanswer, hvalid⟩ := hgranted index serial index templateId vars
      (mem_about_iff.mpr ⟨hcall, rfl⟩)
    exact ⟨verdict, (mem_about_iff.mp hanswer).1, hvalid⟩

theorem granted_notes (events : List Event) (h : History) :
    Granted (events.map .noted ++ h) ↔ h.Granted := by
  simp [Granted]

theorem calls_notes {index : Nat} (events : List Event) (h : History) :
    Calls index (events.map .noted ++ h) ↔ Calls index h := by
  simp [Calls]

end History

/-- An entity with an outcome was deployed exactly if its validation was granted. -/
theorem Trail.isDeployed_iff {platform : Platform} {ctx : TierContext} {dryRun : Bool} {index : Nat}
    {e : Entity} {outcome : Outcome} {trail : History}
    (htrail : Trail platform ctx dryRun index e (.done outcome) trail) :
    outcome.isDeployed = true ↔ trail.Granted := by
  cases htrail with
  | refused serial _ hvalid =>
      simp [Outcome.isDeployed, History.Granted, Entity.validation, hvalid]
  | deployed serial second _ hvalid =>
      simp only [Outcome.isDeployed, true_iff]
      intro serial' index' templateId vars hcall
      simp only [Entity.validation, Entity.creation, List.mem_cons, Occurrence.called.injEq,
        reduceCtorEq, and_false, false_or, or_false, List.not_mem_nil] at hcall
      obtain ⟨rfl, hindex, _⟩ := hcall
      obtain rfl := Option.some_inj.mp hindex
      exact ⟨_, by simp, hvalid⟩

/-- A tier has refused nobody exactly if all its outcomes are deployments. -/
theorem TierReport.rejected_eq_zero_iff {report : TierReport} :
    report.rejected = 0 ↔ ∀ outcome ∈ report.outcomes, outcome.isDeployed = true := by
  rw [rejected, deployed, Nat.sub_eq_zero_iff_le, ← List.length_filter_eq_length_iff]
  have hle := List.length_filter_le Outcome.isDeployed report.outcomes
  omega

theorem TierReport.deployed_add_rejected (report : TierReport) :
    report.deployed + report.rejected = report.outcomes.length :=
  Nat.add_sub_cancel' (List.length_filter_le _ _)

namespace Report

theorem deployed_add_rejected (report : Report) :
    report.deployed + report.rejected = total (report.tiers.map (·.outcomes.length)) := by
  rw [deployed, rejected, total_map_add]
  simp only [TierReport.deployed_add_rejected]

theorem isClean_iff {report : Report} :
    report.isClean = true ↔ ∀ tier ∈ report.tiers, tier.rejected = 0 := by
  rw [isClean, beq_iff_eq, rejected, total_eq_zero_iff, List.forall_mem_map]

end Report

/-- As many entities as a topology has are those of its tiers in deployment order. -/
theorem Topology.total_deploymentOrder (t : Topology) :
    total (t.deploymentOrder.map fun tier => tier.entities.size) = t.entityCount :=
  total_perm ((List.mergeSort_perm ..).map _)

namespace TierRun

variable {platform : Platform} {options : DeploymentOptions} {tier : Tier} {before : History}
  {attempted passed : List Slot} {log : History} {r : TierRun}

/-- Without an error, nobody was refused exactly if every validation was granted. -/
theorem Concluded.forall_isDeployed_iff
    (hconcluded : Concluded platform options tier before attempted passed log r)
    (hfailure : r.failure = none) :
    (∀ outcome ∈ r.outcomes, outcome.isDeployed = true) ↔ log.Granted := by
  have hquiet := hconcluded.failure_eq_none_iff.mp hfailure
  have hpassed := hconcluded.passed_eq_nil hquiet
  have hslot : ∀ slot ∈ attempted, ∃ outcome, slot.outcome? = some outcome ∧
      (outcome.isDeployed = true ↔ (log.about slot.index).Granted) := by
    intro slot hslot
    have hmem := List.mem_append_left passed hslot
    have htrail := hconcluded.recorded.trail slot hmem
    rcases hconcluded.phase_of_mem hslot with ⟨outcome, hphase⟩ | ⟨source, hphase⟩
    · rw [hphase] at htrail
      exact ⟨outcome, by simp [Slot.outcome?, hphase], htrail.isDeployed_iff⟩
    · have hfails := (hconcluded.sound.fails_iff slot.index).mpr
        ⟨slot, hconcluded.mem_slots.mpr hmem, rfl, by simp [hphase, Phase.isFailed]⟩
      exact absurd hfails (hquiet slot.index)
  rw [hconcluded.outcomes_eq, History.granted_iff_about]
  constructor
  · intro hdeployed index serial other templateId vars hcall
    obtain ⟨hmem, hentity⟩ := History.mem_about_iff.mp hcall
    obtain ⟨slot, hin, rfl⟩ := hconcluded.sound.exists_slot hmem hentity
    rw [hconcluded.mem_slots, hpassed, List.append_nil] at hin
    obtain ⟨outcome, houtcome, hiff⟩ := hslot slot hin
    have hgranted := hiff.mp (hdeployed outcome (List.mem_filterMap.mpr ⟨slot, hin, houtcome⟩))
    exact hgranted serial other templateId vars hcall
  · intro hgranted outcome hmem
    obtain ⟨slot, hin, houtcome⟩ := List.mem_filterMap.mp hmem
    obtain ⟨outcome', houtcome', hiff⟩ := hslot slot hin
    obtain rfl : outcome' = outcome := Option.some_inj.mp (houtcome'.symm.trans houtcome)
    exact hiff.mpr (hgranted slot.index)

/-- Tiers that were deployed have no answer that is about no entity, and no error. -/
theorem Passed.mem_before {calls calls' : Nat} {runs : List TierRun} {history : History}
    (hpassed : Passed platform options calls before runs calls' history) {serial : Nat}
    {entity : Option Nat} {outturn : Outturn} (hanswer : .answered serial entity outturn ∈ history)
    (hodd : entity = .none ∨ outturn.isFailure = true) :
    .answered serial entity outturn ∈ before := by
  induction hpassed with
  | none => exact hanswer
  | @more runs calls' history tier r hpassed hreached hover hok ih =>
      apply ih
      obtain ⟨events, hclose⟩ := r.close_history
      obtain ⟨attempted, passed, log, hconcluded⟩ := hreached.concluded hover
      rw [hclose, hconcluded.sound.history_eq] at hanswer
      simp only [List.mem_append, List.mem_map, reduceCtorEq, and_false, exists_false,
        false_or] at hanswer
      rcases hanswer with hlog | hhistory
      · rcases hconcluded.recorded.known _ hlog with ⟨event, hevent⟩ | ⟨slot, _, hentity⟩
        · contradiction
        · obtain rfl : entity = some slot.index := hentity
          have hfailure := hodd.resolve_left (by simp)
          exact absurd ⟨serial, outturn, hlog, hfailure⟩
            (hconcluded.failure_eq_none_iff.mp hok slot.index)
      · exact hhistory

end TierRun

namespace Rollout

variable {platform : Platform} {options : DeploymentOptions} {stamp : RunStamp}
  {topology : Topology} {published : List TemplateDescriptor} {r : Rollout}

theorem missingTemplate_eq_none_iff :
    missingTemplate topology published = none ↔
      ∀ tier ∈ topology.tiers, ∃ d ∈ published, d.id = tier.templateId := by
  rw [missingTemplate, List.find?_eq_none]
  simp only [Topology.mem_templateIds]
  simp

theorem Opened.answered {calls : Nat} {before : History}
    (hopened : Opened platform options stamp topology calls before) {serial : Nat}
    {entity : Option Nat} {outturn : Outturn} (hanswer : .answered serial entity outturn ∈ before) :
    ∃ published, outturn = .listed (.ok published) ∧
      missingTemplate topology published = none := by
  cases hopened with
  | unverified => simp [startNote] at hanswer
  | @verified _ notes result _ hfine =>
      simp [listingHistory, startNote] at hanswer
      obtain ⟨_, _, rfl⟩ := hanswer
      cases result with
      | error source => simp [preflightError?] at hfine
      | ok published => exact ⟨published, rfl, by simpa [preflightError?] using hfine⟩

/-- What refuses a deployment is an error or a template that is missing. -/
theorem erred_or_lacks_of_preflightError? {result : Except PlatformError (List TemplateDescriptor)}
    {source : PlatformError} (hsource : preflightError? topology result = some source)
    {h : History} (serial : Nat) (hanswer : .answered serial none (.listed result) ∈ h) :
    h.Erred ∨ h.Lacks topology := by
  cases result with
  | error source => exact Or.inl ⟨serial, none, _, hanswer, rfl⟩
  | ok published =>
      right
      refine ⟨serial, published, hanswer, ?_⟩
      by_contra hall
      have hnone : missingTemplate topology published = none := by
        rw [missingTemplate_eq_none_iff]
        simpa using hall
      simp [preflightError?, hnone] at hsource

/-- A deployment comes to an error exactly if an answer was one, or a template is missing. -/
theorem Course.error_iff (hcourse : Course platform options stamp topology r)
    {result : Except DeploymentError Report} (hresult : r.result? = some result) :
    (∃ e, result = .error e) ↔
      r.history.Erred ∨ options.verifyTemplates = true ∧ r.history.Lacks topology := by
  cases hcourse with
  | listing => simp [result?] at hresult
  | deploying => simp [result?] at hresult
  | refused hverify notes hgives hsource =>
      obtain rfl := Option.some_inj.mp hresult
      refine iff_of_true ⟨_, rfl⟩ ?_
      refine (erred_or_lacks_of_preflightError? hsource 0 ?_).imp_right fun hlacks =>
        ⟨hverify, hlacks⟩
      exact List.mem_cons_of_mem _ List.mem_cons_self
  | aborted hopened hpassed horder hreached hover habort hreport =>
      obtain rfl := Option.some_inj.mp hresult
      refine iff_of_true ⟨_, rfl⟩ (Or.inl ?_)
      obtain ⟨attempted, passed, log, hconcluded⟩ := hreached.concluded hover
      have hfailure := (TierRun.result_eq_error_iff.mp habort).1
      have hfails : ∃ index, History.Fails index log := by
        by_contra hnone
        rw [hconcluded.failure_eq_none_iff.mpr (by simpa using hnone)] at hfailure
        contradiction
      obtain ⟨index, hfails⟩ := hfails
      have herred := History.Erred.of_fails hfails
      rw [hconcluded.sound.history_eq]
      exact herred.mono fun o ho => List.mem_cons_of_mem _ (List.mem_append_left _ ho)
  | completed hopened hpassed horder hreport =>
      obtain rfl := Option.some_inj.mp hresult
      refine iff_of_false (by simp) ?_
      rintro (⟨serial, entity, outturn, hanswer, hfailure⟩ |
        ⟨_, serial, published, hanswer, tier, htier, hlacks⟩)
      · have hbefore := hpassed.mem_before (List.mem_of_ne_of_mem (by simp) hanswer)
          (Or.inr hfailure)
        obtain ⟨published, rfl, _⟩ := hopened.answered hbefore
        simp [Outturn.isFailure] at hfailure
      · have hbefore := hpassed.mem_before (List.mem_of_ne_of_mem (by simp) hanswer)
          (Or.inl rfl)
        obtain ⟨published', hpublished, hnone⟩ := hopened.answered hbefore
        simp only [Outturn.listed.injEq, Except.ok.injEq] at hpublished
        subst hpublished
        obtain ⟨d, hd, hid⟩ := missingTemplate_eq_none_iff.mp hnone tier htier
        exact hlacks d hd hid

/-- Which entities were attempted in a chapter that is over. -/
theorem Chapter.Told.calls_iff {c : Chapter} (htold : c.Told platform options)
    (hover : c.run.isOver = true) (index : Nat) :
    History.Calls index c.log ↔
      index < reach options.window c.run.tier.entities.size c.log.endings := by
  obtain ⟨calls, before, events, hreached, hlog⟩ := htold
  obtain ⟨closed, log, hsound⟩ := hreached.sound
  rw [hsound.history_eq, ← List.append_assoc, List.append_cancel_right_eq] at hlog
  rw [hlog, History.calls_notes, History.endings_notes]
  exact hreached.calls_iff hover hsound.history_eq index

theorem Chapter.Told.rejected_eq_zero_iff {c : Chapter} (htold : c.Told platform options)
    (hover : c.run.isOver = true) (hfailure : c.run.failure = none) :
    c.run.report.rejected = 0 ↔ c.log.Granted := by
  obtain ⟨before, attempted, passed, log, events, hconcluded, hlog⟩ := htold.exists_concluded hover
  rw [hlog, History.granted_notes, TierReport.rejected_eq_zero_iff]
  exact hconcluded.forall_isDeployed_iff hfailure

def tierNames (t : Tier) : String × List String :=
  (t.name, t.entities.toList.map Entity.name)

/-- The names in a tier report: the tier, and the entity of each outcome. -/
def reportNames (report : TierReport) : String × List String :=
  (report.tier, report.outcomes.map Outcome.entity)

/-- What a report says about every entity of a topology. -/
structure Complete (topology : Topology) (chapters : List Chapter) (report : Report) : Prop where
  /-- Every entity of every tier has one outcome, in deployment order. -/
  names : report.tiers.map reportNames = topology.deploymentOrder.map tierNames
  count : report.deployed + report.rejected = topology.entityCount
  clean : report.isClean = true ↔ ∀ c ∈ chapters, c.log.Granted

theorem Chronicle.complete {chapters : List Chapter}
    (hchronicle : Chronicle platform options topology chapters r) {report : Report}
    (hresult : r.result? = some (.ok report)) : Complete topology chapters report := by
  obtain ⟨hover, htiers⟩ := hchronicle.ended _ hresult
  obtain ⟨horder, hfailure⟩ := hchronicle.completed report hresult
  have hdeployed : ∀ c ∈ chapters, c.Deployed := fun c hc =>
    (hchronicle.told c hc).deployed (hover c hc) (hfailure c hc)
  have hreport : report.tiers = chapters.map (·.run.report) := htiers
  constructor
  case names =>
    rw [hreport, ← horder, List.map_map, List.map_map]
    apply List.map_congr_left
    intro c hc
    exact Prod.ext rfl (hdeployed c hc).outcomes
  case count =>
    rw [Report.deployed_add_rejected, ← Topology.total_deploymentOrder, hreport, ← horder,
      List.map_map, List.map_map]
    congr 1
    apply List.map_congr_left
    intro c hc
    have hlength := congrArg List.length (hdeployed c hc).outcomes
    rw [List.length_map, List.length_map] at hlength
    exact hlength
  case clean =>
    rw [Report.isClean_iff, hreport, List.forall_mem_map]
    constructor
    · intro hnone c hc
      exact ((hchronicle.told c hc).rejected_eq_zero_iff (hover c hc) (hfailure c hc)).mp
        (hnone c hc)
    · intro hgranted c hc
      exact ((hchronicle.told c hc).rejected_eq_zero_iff (hover c hc) (hfailure c hc)).mpr
        (hgranted c hc)

/-- For every platform and every order of moves: a deployment comes to an end, and
to an error exactly if a call was answered by one or, where that is verified, a
template is missing.  A report of one that does not accounts for every entity and
is clean exactly if every validation was granted.  The entities that were attempted
in a tier follow from the order in which entities ended and which of them ended by
an error, so it does not matter for them how many were refused, and which. -/
theorem only_errors_abort (platform : Platform) (options : DeploymentOptions) (stamp : RunStamp)
    (topology : Topology) (schedule : List Nat) :
    let r := (Rollout.start options stamp topology []).run platform schedule
    (∀ result, r.result? = some result →
      ((∃ e, result = .error e) ↔
        r.history.Erred ∨ options.verifyTemplates = true ∧ r.history.Lacks topology)) ∧
    (∃ chapters, Chronicle platform options topology chapters r ∧
      (∀ report, r.result? = some (.ok report) → Complete topology chapters report) ∧
      ∀ c ∈ chapters, c.run.isOver = true → ∀ index, History.Calls index c.log ↔
        index < reach options.window c.run.tier.entities.size c.log.endings) ∧
    ∃ later, (r.run platform later).result?.isSome = true := by
  intro r
  have hcourse := run_course platform options stamp topology schedule
  obtain ⟨chapters, hchronicle⟩ := hcourse.exists_chronicle
  refine ⟨fun result => hcourse.error_iff, ⟨chapters, hchronicle, ?_, ?_⟩, run_exists_result ..⟩
  · intro report hresult
    exact hchronicle.complete hresult
  · intro c hc hover index
    exact (hchronicle.told c hc).calls_iff hover index

end Rollout

end PolicyRollout
