import Mathlib.Data.List.Sort
import PolicyRollout.Plan.Basic
import PolicyRollout.Proofs.Deployment.Fates
import PolicyRollout.Proofs.Deployment.Sequential
import PolicyRollout.Proofs.Topology.DeploymentOrder
import PolicyRollout.Proofs.Topology.TemplateIds
/-!
Deployments of topologies with the same deployment order.  A deployment reads a topology for the
deployment order, the templates and two sizes, all of which the deployment order decides.  Tiers
may therefore change places in a document, as long as those of one kind do not: nothing changes
in what is planned and in what is deployed.
-/
namespace PolicyRollout

namespace Topology

section

variable {t t' : Topology}

theorem tiers_perm_of_deploymentOrder_eq (hsame : t.deploymentOrder = t'.deploymentOrder) :
    t.tiers.Perm t'.tiers :=
  t.deploymentOrder_perm.symm.trans (hsame ▸ t'.deploymentOrder_perm)

theorem templateIds_eq_of_perm (hperm : t.tiers.Perm t'.tiers) :
    t.templateIds = t'.templateIds := by
  apply t.templateIds_ordered.eq_of_mem_iff t'.templateIds_ordered
  intro id
  simp only [mem_templateIds, hperm.mem_iff]

theorem entityCount_eq_of_perm (hperm : t.tiers.Perm t'.tiers) : t.entityCount = t'.entityCount :=
  total_perm (hperm.map _)

end

end Topology

namespace Rollout

/-- The deployment, as one of another topology. -/
def withTopology (t : Topology) (r : Rollout) : Rollout :=
  { r with topology := t }

section

variable {t : Topology} {r : Rollout}

theorem enter_withTopology (t : Topology) (r : Rollout) (tiers : List Tier) :
    (r.withTopology t).enter tiers = (r.enter tiers).withTopology t := by
  induction tiers generalizing r with
  | nil => rfl
  | cons tier rest ih =>
      let run := TierRun.start r.options tier r.calls r.history
      have hstart : TierRun.start (r.withTopology t).options tier (r.withTopology t).calls
          (r.withTopology t).history = run := rfl
      rw [enter, enter, hstart]
      cases hover : run.isOver with
      | true =>
          simp only [if_true]
          exact ih { r with report := r.report.add run.close.report, calls := run.close.calls
                            history := run.close.history }
      | false =>
          simp only [Bool.false_eq_true, if_false]
          rfl

theorem leave_withTopology (t : Topology) (r : Rollout) (run : TierRun) (rest : List Tier) :
    (r.withTopology t).leave run rest = (r.leave run rest).withTopology t := by
  unfold leave
  cases run.result with
  | error a => rfl
  | ok report =>
      exact enter_withTopology t { r with
        report := r.report.add report, calls := run.close.calls
        history := run.close.history } rest

theorem verify_withTopology (hsame : t.deploymentOrder = r.topology.deploymentOrder)
    (serial : Nat) (reply : Reply (List TemplateDescriptor)) :
    (r.withTopology t).verify serial reply = (r.verify serial reply).withTopology t := by
  have htemplates : t.templateIds = r.topology.templateIds :=
    Topology.templateIds_eq_of_perm (Topology.tiers_perm_of_deploymentOrder_eq hsame)
  have herror : preflightError? (r.withTopology t).topology reply.result =
      preflightError? r.topology reply.result := by
    unfold preflightError? missingTemplate
    rw [withTopology, htemplates]
  cases hsource : preflightError? r.topology reply.result with
  | some source =>
      rw [verify_of_preflightError hsource]
      exact verify_of_preflightError (herror.trans hsource)
  | none =>
      rw [verify_of_fine hsource, verify_of_fine (herror.trans hsource), begin, begin]
      have hbegin : ((r.withTopology t).heard serial reply).topology.deploymentOrder =
          (r.heard serial reply).topology.deploymentOrder := hsame
      rw [hbegin]
      exact enter_withTopology t (r.heard serial reply) _

theorem move_withTopology (hsame : t.deploymentOrder = r.topology.deploymentOrder)
    (platform : Platform) (index : Nat) :
    (r.withTopology t).move platform index = (r.move platform index).withTopology t := by
  obtain ⟨topology, options, stamp, report, stage, calls, history⟩ := r
  match stage with
  | .over result => rfl
  | .listing serial => exact verify_withTopology hsame serial _
  | .tier run rest =>
      simp only [move, withTopology]
      cases (run.move platform index).isOver with
      | true => exact leave_withTopology t ⟨topology, options, stamp, report, .tier run rest,
          calls, history⟩ (run.move platform index) rest
      | false => rfl

theorem Course.topology_eq {platform : Platform} {options : DeploymentOptions} {stamp : RunStamp}
    {topology : Topology} (hcourse : Course platform options stamp topology r) :
    r.topology = topology := by
  cases hcourse <;> rfl

theorem run_withTopology {platform : Platform} {options : DeploymentOptions} {stamp : RunStamp}
    {t' : Topology} (hsame : t.deploymentOrder = t'.deploymentOrder)
    (hcourse : Course platform options stamp t' r) (schedule : List Nat) :
    (r.withTopology t).run platform schedule = (r.run platform schedule).withTopology t := by
  induction schedule generalizing r with
  | nil => rfl
  | cons index rest ih =>
      have hmove := move_withTopology (hcourse.topology_eq ▸ hsame) platform index
      have hrest := ih (move_course hcourse index)
      rw [← hmove] at hrest
      exact hrest

theorem start_withTopology {t' : Topology} (hsame : t.deploymentOrder = t'.deploymentOrder)
    (options : DeploymentOptions) (stamp : RunStamp) :
    Rollout.start options stamp t [] = (Rollout.start options stamp t' []).withTopology t := by
  have hperm := Topology.tiers_perm_of_deploymentOrder_eq hsame
  unfold Rollout.start
  rw [hperm.length_eq, Topology.entityCount_eq_of_perm hperm]
  cases options.verifyTemplates with
  | true => rfl
  | false =>
      simp only [Bool.false_eq_true, if_false, begin, ← enter_withTopology]
      exact congrArg (enter _) hsame

/-- Deployments of topologies with the same deployment order go the same way. -/
theorem run_eq_of_deploymentOrder_eq {t' : Topology}
    (hsame : t.deploymentOrder = t'.deploymentOrder) (platform : Platform)
    (options : DeploymentOptions) (stamp : RunStamp) (schedule : List Nat) :
    (Rollout.start options stamp t []).run platform schedule =
      ((Rollout.start options stamp t' []).run platform schedule).withTopology t := by
  rw [start_withTopology hsame]
  exact run_withTopology hsame (start_course platform options stamp t') schedule

end

end Rollout

/-- The deployment order of a topology is its web tiers, application tiers, data tiers and secure
tiers, each in document order.  Tiers may be put in another order as long as those of one kind stay
in document order: the plan is the same, and under the same moves a deployment has the same history
and comes to the same.  With one entity at a time the moves do not matter either: with platforms
that answer by one table any two deployments come to an end, with the same calls and the same
reports on tiers, or given up at the same place. -/
theorem deployment_regrouped (t : Topology) :
    t.deploymentOrder = [TierKind.web, .application, .data, .secure].flatMap t.tiersOf ∧
    t.deploymentOrder.Perm t.tiers ∧
    ∀ order, t.KeepsKinds order →
      (t.inOrder order).tiers.Perm t.tiers ∧
      (t.inOrder order).plan = t.plan ∧
      (∀ platform options stamp schedule,
        let r := (Rollout.start options stamp t []).run platform schedule
        let r' := (Rollout.start options stamp (t.inOrder order) []).run platform schedule
        r'.history = r.history ∧ r'.result? = r.result?) ∧
      ∀ (answer : (call : Call) → Except PlatformError call.Result) platform platform' options stamp
          stamp' schedule schedule',
        platform.Answers answer → platform'.Answers answer → options.entityConcurrency ≤ 1 →
        let r := (Rollout.start options stamp t []).run platform schedule
        let r' := (Rollout.start options stamp' (t.inOrder order) []).run platform' schedule'
        (∃ later, (r.run platform later).result?.isSome = true) ∧
        (∃ later, (r'.run platform' later).result?.isSome = true) ∧
        ∀ result result', r.result? = some result → r'.result? = some result' →
          r'.history.made = r.history.made ∧ Rollout.Agrees result' result := by
  refine ⟨t.deploymentOrder_eq_groups, t.deploymentOrder_perm, fun order hkeeps => ?_⟩
  have hsame := Topology.deploymentOrder_inOrder hkeeps
  refine ⟨Topology.inOrder_perm hkeeps, congrArg (List.flatMap Tier.plan) hsame, ?_, ?_⟩
  · intro platform options stamp schedule r r'
    have hrun : r' = r.withTopology (t.inOrder order) :=
      Rollout.run_eq_of_deploymentOrder_eq hsame platform options stamp schedule
    rw [hrun]
    exact ⟨rfl, rfl⟩
  · intro answer platform platform' options stamp stamp' schedule schedule' hanswers hanswers'
      hsequential r r'
    refine ⟨Rollout.run_exists_result .., Rollout.run_exists_result .., ?_⟩
    intro result result' hresult hresult'
    have hrun : r' = ((Rollout.start options stamp' t []).run platform' schedule').withTopology
        (t.inOrder order) :=
      Rollout.run_eq_of_deploymentOrder_eq hsame platform' options stamp' schedule'
    rw [hrun] at hresult' ⊢
    exact Rollout.sequential_alike hsequential hanswers' hanswers hresult' hresult

namespace Outage

/-- The web tier comes last in the document and is deployed first. -/
def shuffled : Topology :=
  ⟨[⟨"app", "ls-app", none, none, .services []⟩, tier]⟩

/-- Deployments that begin with the web tier are given up at its second server. -/
theorem result_of_order {t : Topology} (horder : t.deploymentOrder = shuffled.tiers.reverse)
    (stamp : RunStamp) :
    ((Rollout.start single stamp t []).run platform [0, 0, 0, 1, 1, 1, 2]).result? =
      some (.error ⟨some "web", some "b", ⟨stamp.runId, false, stamp.startedAt,
        some stamp.finishedAt, [⟨"web", .web, "ls-web", [.deployed "a" "web-server" 1]⟩]⟩,
        .transport "down"⟩) := by
  have hbegin : ∀ r : Rollout, r.topology = t → r.begin = r.enter shuffled.tiers.reverse := by
    rintro r rfl
    rw [Rollout.begin, horder]
  unfold Rollout.start
  simp only [show single.verifyTemplates = false from rfl, Bool.false_eq_true, if_false]
  rw [hbegin _ rfl]
  cbv

theorem deployment_regrouped_outage :
    shuffled.KeepsKinds [1, 0] ∧ (shuffled.inOrder [1, 0]).plan = shuffled.plan ∧
      let r := (Rollout.start single stamp shuffled []).run platform [0, 0, 0, 1, 1, 1, 2]
      let r' := (Rollout.start single ⟨"again", "later", "last"⟩ (shuffled.inOrder [1, 0]) []).run
        platform [0, 0, 0, 1, 1, 1, 2]
      ∃ result result', r.result? = some result ∧ r'.result? = some result' ∧
        r'.history.made = r.history.made ∧ Rollout.Agrees result' result := by
  have hkeeps : shuffled.KeepsKinds [1, 0] := by
    refine ⟨by decide, ?_⟩
    rw [List.pairwise_pair]
    intro a b ha hb hkind
    cases ha
    cases hb
    cases hkind
  have horder : shuffled.deploymentOrder = shuffled.tiers.reverse :=
    shuffled.deploymentOrder_eq_groups
  have horder' := (Topology.deploymentOrder_inOrder hkeeps).trans horder
  have hresult := result_of_order horder stamp
  have hresult' := result_of_order horder' ⟨"again", "later", "last"⟩
  have hanswers : platform.Answers table := fun _ _ _ => rfl
  have hregrouped := (deployment_regrouped shuffled).2.2 [1, 0] hkeeps
  have halike := (hregrouped.2.2.2 table platform platform single stamp ⟨"again", "later", "last"⟩
    [0, 0, 0, 1, 1, 1, 2] [0, 0, 0, 1, 1, 1, 2] hanswers hanswers (Nat.le_refl 1)).2.2
  exact ⟨hkeeps, hregrouped.2.1, _, _, hresult, hresult', halike _ _ hresult hresult'⟩

end Outage

end PolicyRollout
