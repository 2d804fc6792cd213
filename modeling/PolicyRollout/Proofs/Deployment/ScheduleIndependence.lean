import PolicyRollout.Proofs.Deployment.Completion
import PolicyRollout.Proofs.Deployment.Fates
/-!
Neither the width of the window nor the order of answers decides what a
deployment comes to, as long as each answer depends on the call alone.  A tier
is given up at the first entity, in the order of the tier, whose calls fail, even
if one behind it fails earlier in time.
-/
namespace PolicyRollout

section

variable {answer : (call : Call) → Except PlatformError call.Result} {dryRun : Bool}

/-- The first entity of a tier that fails is determined, and so is its error. -/
theorem Tier.FailsAt.unique {t : Tier} {index index' : Nat} {e e' : Entity}
    {source source' : PlatformError} (hfails : t.FailsAt answer dryRun index e source)
    (hfails' : t.FailsAt answer dryRun index' e' source') :
    index = index' ∧ e = e' ∧ source = source' := by
  have hindex : index = index' := by
    rcases Nat.lt_trichotomy index index' with hlt | heq | hlt
    · obtain ⟨outcome, hok⟩ := hfails'.first index hlt e hfails.entity
      simp [hfails.fate] at hok
    · exact heq
    · obtain ⟨outcome, hok⟩ := hfails.first index' hlt e' hfails'.entity
      simp [hfails'.fate] at hok
  subst hindex
  have hentity : e = e' := Option.some_inj.mp (hfails.entity.symm.trans hfails'.entity)
  subst hentity
  exact ⟨rfl, rfl, Except.error.inj (hfails.fate.symm.trans hfails'.fate)⟩

theorem Tier.FailsAt.not_fine {t : Tier} {index : Nat} {e : Entity} {source : PlatformError}
    (hfails : t.FailsAt answer dryRun index e source) : ¬ t.Fine answer dryRun := by
  intro hfine
  obtain ⟨outcome, hok⟩ := hfine e (List.mem_of_getElem? hfails.entity)
  simp [hfails.fate] at hok

/-- The report of a tier of which no entity fails. -/
def Tier.fullReport (answer : (call : Call) → Except PlatformError call.Result) (dryRun : Bool)
    (t : Tier) : TierReport :=
  ⟨t.name, t.kind, t.switch, (t.fates answer dryRun).filterMap outcomeOf⟩

namespace TierRun

variable {platform : Platform} {options : DeploymentOptions} {tier : Tier} {calls : Nat}
  {before : History} {r : TierRun}

/-- How a run of a tier ends follows from the fates of its entities. -/
theorem Reached.result_cases (hreached : r.Reached platform options tier calls before)
    (hover : r.isOver = true) (hanswers : platform.Answers answer) :
    (tier.Fine answer options.dryRun ∧
      r.result = .ok (tier.fullReport answer options.dryRun)) ∨
    ∃ index e source count, tier.FailsAt answer options.dryRun index e source ∧
      index < count ∧ count ≤ index + options.window ∧
      r.result = .error ⟨tier.name, e.name, ⟨tier.name, tier.kind, tier.switch,
        ((tier.fates answer options.dryRun).take count).filterMap outcomeOf⟩, source⟩ := by
  obtain ⟨attempted, passed, log, hconcluded⟩ := hreached.concluded hover
  rcases tier.fine_or_failsAt answer options.dryRun with hfine | ⟨index, e, source, hfails⟩
  · exact Or.inl ⟨hfine, hconcluded.result_of_fine hanswers hfine⟩
  · obtain ⟨hlt, hle, hresult⟩ := hconcluded.result_of_failsAt hanswers hfails
    exact Or.inr ⟨index, e, source, attempted.length, hfails, hlt, hle, hresult⟩

/-- Tiers that were passed are fine, and their reports are full. -/
theorem Passed.fine {calls' : Nat} {history : History} {runs : List TierRun}
    (hpassed : Passed platform options calls before runs calls' history)
    (hanswers : platform.Answers answer) :
    (∀ run ∈ runs, run.tier.Fine answer options.dryRun) ∧
      runs.map TierRun.report =
        (runs.map TierRun.tier).map (Tier.fullReport answer options.dryRun) := by
  induction hpassed with
  | none => simp
  | @more runs calls' history tier run _ hreached hover hok ih =>
      have hresult := result_eq_ok_iff.mpr ⟨hok, rfl⟩
      rcases hreached.result_cases hover hanswers with
        ⟨hfine, hfull⟩ | ⟨_, _, _, _, _, _, _, herror⟩
      · rw [hresult, Except.ok.injEq] at hfull
        constructor
        · intro other hother
          rcases List.mem_append.mp hother with hold | hnew
          · exact ih.1 other hold
          · rw [List.mem_singleton.mp hnew, hreached.tier_eq]
            exact hfine
        · simp only [List.map_append, List.map_singleton]
          rw [ih.2, hfull, hreached.tier_eq]
      · simp [hresult] at herror

end TierRun

/-- A list is cut in one place only by the first of its members without a property. -/
theorem eq_of_append_cons_eq {α : Type} {p : α → Prop} {front front' back back' : List α}
    {a a' : α} (heq : front ++ a :: back = front' ++ a' :: back') (hfront : ∀ x ∈ front, p x)
    (hfront' : ∀ x ∈ front', p x) (ha : ¬ p a) (ha' : ¬ p a') : a = a' := by
  induction front generalizing front' with
  | nil =>
      cases front' with
      | nil => exact (List.cons.inj heq).1
      | cons x rest => exact absurd ((List.cons.inj heq).1 ▸ hfront' x List.mem_cons_self) ha
  | cons x rest ih =>
      cases front' with
      | nil => exact absurd ((List.cons.inj heq).1 ▸ hfront x List.mem_cons_self) ha'
      | cons x' rest' =>
          exact ih (List.cons.inj heq).2 (fun y hy => hfront y (List.mem_cons_of_mem _ hy))
            (fun y hy => hfront' y (List.mem_cons_of_mem _ hy))

namespace Rollout

/-- How a deployment ends, in terms of the fates of all entities. -/
inductive Ending (answer : (call : Call) → Except PlatformError call.Result)
    (options : DeploymentOptions) (topology : Topology) : Except DeploymentError Report → Prop
  | refused {report : Report} {source : PlatformError} (hverify : options.verifyTemplates = true)
      (hsource : preflightError? topology (answer listing) = some source) :
      Ending answer options topology (.error ⟨none, none, report, source⟩)
  | aborted {front : List Tier} {tier : Tier} {back : List Tier} {index : Nat} {e : Entity}
      {source : PlatformError} {report : Report}
      (hopened : options.verifyTemplates = true → preflightError? topology (answer listing) = none)
      (horder : topology.deploymentOrder = front ++ tier :: back)
      (hfine : ∀ t ∈ front, t.Fine answer options.dryRun)
      (hfails : tier.FailsAt answer options.dryRun index e source) :
      Ending answer options topology (.error ⟨some tier.name, some e.name, report, source⟩)
  | completed {report : Report}
      (hopened : options.verifyTemplates = true → preflightError? topology (answer listing) = none)
      (hfine : ∀ t ∈ topology.deploymentOrder, t.Fine answer options.dryRun)
      (hreport : report.tiers =
        topology.deploymentOrder.map (Tier.fullReport answer options.dryRun)) :
      Ending answer options topology (.ok report)

variable {platform : Platform} {options : DeploymentOptions} {stamp : RunStamp}
  {topology : Topology}

theorem Opened.preflightError?_eq {calls : Nat} {before : History}
    (hopened : Opened platform options stamp topology calls before)
    (hanswers : platform.Answers answer) (hverify : options.verifyTemplates = true) :
    preflightError? topology (answer listing) = none := by
  cases hopened with
  | unverified hunverified => simp [hverify] at hunverified
  | verified _ notes hgives hfine =>
      rw [hanswers.eq_of_gives hgives]
      exact hfine

theorem Course.ending {r : Rollout} (hcourse : Course platform options stamp topology r)
    (hanswers : platform.Answers answer) {result : Except DeploymentError Report}
    (hresult : r.result? = some result) : Ending answer options topology result := by
  cases hcourse with
  | listing => simp [result?] at hresult
  | deploying => simp [result?] at hresult
  | refused hverify notes hgives hsource =>
      obtain rfl := Option.some_inj.mp hresult
      rw [← hanswers.eq_of_gives hgives] at hsource
      exact .refused hverify hsource
  | aborted hopened hpassed horder hreached hover habort hreport =>
      obtain rfl := Option.some_inj.mp hresult
      rcases hreached.result_cases hover hanswers with
        ⟨_, hfull⟩ | ⟨_, e, source, _, hfails, _, _, herror⟩
      · simp [habort] at hfull
      · rw [habort, Except.error.injEq] at herror
        subst herror
        refine .aborted (hopened.preflightError?_eq hanswers) horder ?_ hfails
        intro t ht
        obtain ⟨run, hrun, rfl⟩ := List.mem_map.mp ht
        exact (hpassed.fine hanswers).1 run hrun
  | completed hopened hpassed horder hreport =>
      obtain rfl := Option.some_inj.mp hresult
      obtain ⟨hfine, hreports⟩ := hpassed.fine hanswers
      refine .completed (hopened.preflightError?_eq hanswers) ?_ ?_
      · rw [horder]
        intro t ht
        obtain ⟨run, hrun, rfl⟩ := List.mem_map.mp ht
        exact hfine run hrun
      · rw [hreport, horder, ← hreports]
        rfl

/-- Two deployments came to the same: the same tier reports, or the same call
that failed for the same entity of the same tier. -/
def SameEnd : Except DeploymentError Report → Except DeploymentError Report → Prop
  | .ok first, .ok second => first.tiers = second.tiers
  | .error first, .error second =>
    first.tier = second.tier ∧ first.entity = second.entity ∧ first.source = second.source
  | _, _ => False

/-- The end of a deployment is determined but for its report after a failure. -/
theorem Ending.same {options' : DeploymentOptions} {result result' : Except DeploymentError Report}
    (hdryRun : options.dryRun = options'.dryRun)
    (hverify : options.verifyTemplates = options'.verifyTemplates)
    (hending : Ending answer options topology result)
    (hending' : Ending answer options' topology result') : SameEnd result result' := by
  cases hending with
  | refused hverified hsource =>
      cases hending' with
      | refused _ hsource' => exact ⟨rfl, rfl, Option.some_inj.mp (hsource.symm.trans hsource')⟩
      | aborted hopened => simp [hopened (hverify ▸ hverified)] at hsource
      | completed hopened => simp [hopened (hverify ▸ hverified)] at hsource
  | aborted hopened horder hfine hfails =>
      cases hending' with
      | refused hverified hsource => simp [hopened (hverify ▸ hverified)] at hsource
      | aborted _ horder' hfine' hfails' =>
          rw [← hdryRun] at hfine' hfails'
          have htier := eq_of_append_cons_eq (horder.symm.trans horder') hfine hfine'
            hfails.not_fine hfails'.not_fine
          subst htier
          obtain ⟨_, rfl, rfl⟩ := hfails.unique hfails'
          exact ⟨rfl, rfl, rfl⟩
      | completed _ hfine' =>
          rw [← hdryRun, horder] at hfine'
          exact hfails.not_fine (hfine' _ (by simp))
  | completed hopened hfine hreport =>
      cases hending' with
      | refused hverified hsource => simp [hopened (hverify ▸ hverified)] at hsource
      | aborted _ horder' _ hfails' =>
          rw [horder'] at hfine
          rw [← hdryRun] at hfails'
          exact hfails'.not_fine (hfine _ (by simp))
      | completed _ _ hreport' =>
          change _ = _
          rw [hreport, hreport', hdryRun]

end Rollout

/-- With a platform whose answers depend on the calls alone, neither the width
of the window nor the order of moves matters.  Two runs of a tier come to the
same report, or are given up at the first entity whose calls fail, with its
error; then the outcomes of a run with one entity at a time come first in those
of any other.  Two deployments end with the same tier reports or at the same
tier and entity.  All of them do end. -/
theorem schedule_independent {platform platform' : Platform} {options options' : DeploymentOptions}
    (hanswers : platform.Answers answer) (hanswers' : platform'.Answers answer)
    (hdryRun : options.dryRun = options'.dryRun)
    (hverify : options.verifyTemplates = options'.verifyTemplates) :
    (∀ tier calls calls' before before' schedule schedule',
      let r := (TierRun.start options tier calls before).run platform schedule
      let r' := (TierRun.start options' tier calls' before').run platform' schedule'
      (∃ later, (r.run platform later).isOver = true) ∧
      (r.isOver = true → r'.isOver = true →
        (∃ report, r.result = .ok report ∧ r'.result = .ok report) ∨
        ∃ index e source report report', tier.FailsAt answer options.dryRun index e source ∧
          r.result = .error ⟨tier.name, e.name, report, source⟩ ∧
          r'.result = .error ⟨tier.name, e.name, report', source⟩ ∧
          (options.entityConcurrency ≤ 1 → report.outcomes <+: report'.outcomes))) ∧
    ∀ topology stamp stamp' schedule schedule',
      let r := (Rollout.start options stamp topology []).run platform schedule
      let r' := (Rollout.start options' stamp' topology []).run platform' schedule'
      (∃ later, (r.run platform later).result?.isSome = true) ∧
      ∀ result result', r.result? = some result → r'.result? = some result' →
        Rollout.SameEnd result result' := by
  constructor
  · intro tier calls calls' before before' schedule schedule' r r'
    refine ⟨TierRun.run_exists_isOver .., fun hover hover' => ?_⟩
    have hreached : r.Reached platform options tier calls before := ⟨schedule, rfl⟩
    have hreached' : r'.Reached platform' options' tier calls' before' := ⟨schedule', rfl⟩
    have hcases := hreached.result_cases hover hanswers
    have hcases' := hreached'.result_cases hover' hanswers'
    rw [← hdryRun] at hcases'
    rcases hcases with ⟨hfine, hfull⟩ | ⟨index, e, source, count, hfails, hlt, hle, herror⟩
    · rcases hcases' with ⟨_, hfull'⟩ | ⟨_, _, _, _, hfails', _⟩
      · exact Or.inl ⟨_, hfull, hfull'⟩
      · exact absurd hfine hfails'.not_fine
    · rcases hcases' with ⟨hfine', _⟩ | ⟨_, _, _, count', hfails', hlt', _, herror'⟩
      · exact absurd hfine' hfails.not_fine
      · obtain ⟨rfl, rfl, rfl⟩ := hfails.unique hfails'
        refine Or.inr ⟨index, e, source, _, _, hfails, herror, herror', fun hone => ?_⟩
        have hcount : count ≤ count' := by
          rw [DeploymentOptions.window, Nat.max_eq_left hone] at hle
          omega
        exact (List.take_prefix_take_left hcount).filterMap outcomeOf
  · intro topology stamp stamp' schedule schedule' r r'
    refine ⟨Rollout.run_exists_result .., fun result result' hresult hresult' => ?_⟩
    have hending := (Rollout.run_course platform options stamp topology schedule).ending
      hanswers hresult
    have hending' := (Rollout.run_course platform' options' stamp' topology schedule').ending
      hanswers' hresult'
    exact hending.same hdryRun hverify hending'

end

namespace Outage

/-- Among three at once the third server fails first, and the first is created last. -/
theorem schedule_independent_late_failure :
    let r := (TierRun.start single tier 0 []).run platform [0, 0, 0, 1, 1, 1, 2]
    let r' := (TierRun.start triple tier 0 []).run platform [2, 2, 2, 1, 0, 1, 1, 0, 0]
    r.isOver = true ∧ r'.isOver = true ∧
      ((∃ report, r.result = .ok report ∧ r'.result = .ok report) ∨
        ∃ index e source report report', tier.FailsAt table false index e source ∧
          r.result = .error ⟨"web", e.name, report, source⟩ ∧
          r'.result = .error ⟨"web", e.name, report', source⟩ ∧
          (single.entityConcurrency ≤ 1 → report.outcomes <+: report'.outcomes)) := by
  intro r r'
  have hanswers : platform.Answers table := fun _ _ _ => rfl
  have hover : r.isOver = true := rfl
  have hover' : r'.isOver = true := rfl
  have hindependent := @schedule_independent table platform platform single triple
    hanswers hanswers rfl rfl
  exact ⟨hover, hover', (hindependent.1 tier 0 0 [] [] [0, 0, 0, 1, 1, 1, 2]
    [2, 2, 2, 1, 0, 1, 1, 0, 0]).2 hover hover'⟩

example : ((TierRun.start triple tier 0 []).run platform [2, 2, 2, 1, 0, 1, 1, 0, 0]).result =
    .error ⟨"web", "b", ⟨"web", .web, "ls-web", [.deployed "a" "web-server" 1]⟩,
      .transport "down"⟩ := rfl

end Outage

end PolicyRollout
