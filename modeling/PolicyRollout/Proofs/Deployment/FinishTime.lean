import PolicyRollout.Proofs.Deployment.Growth
import PolicyRollout.Proofs.Deployment.TierBarrier
/-!
The time at which a deployment finishes.  It is only known when the deployment is over, and it
stands in the report and nowhere else: a deployment that was carried out under another such time
is the same deployment with the time put in its report.
-/
namespace PolicyRollout

/-- The report with another time at which it was finished, if it was. -/
def Report.finishingAt (time : String) (report : Report) : Report :=
  { report with finishedAt := report.finishedAt.map fun _ => time }

def finishingAt (time : String) : Except DeploymentError Report → Except DeploymentError Report
  | .ok report => .ok (report.finishingAt time)
  | .error e => .error { e with completed := e.completed.finishingAt time }

/-- The stage of a deployment with another time at which it is finished. -/
def Stage.finishingAt (time : String) : Stage → Stage
  | .over result => .over (PolicyRollout.finishingAt time result)
  | stage => stage

namespace Rollout

/-- The deployment with another time at which it is finished. -/
def finishingAt (time : String) (r : Rollout) : Rollout :=
  { r with
    stamp := { r.stamp with finishedAt := time }
    report := r.report.finishingAt time
    stage := r.stage.finishingAt time }

section Commutes

variable (time : String) (r : Rollout)

theorem abort_finishingAt (a : TierAborted) :
    (r.finishingAt time).abort a = (r.abort a).finishingAt time :=
  rfl

theorem complete_finishingAt : (r.finishingAt time).complete = r.complete.finishingAt time :=
  rfl

theorem enter_finishingAt (tiers : List Tier) :
    (r.finishingAt time).enter tiers = (r.enter tiers).finishingAt time := by
  induction tiers generalizing r with
  | nil => exact complete_finishingAt time r
  | cons tier rest ih =>
      let run := TierRun.start r.options tier r.calls r.history
      have hstart : TierRun.start (r.finishingAt time).options tier (r.finishingAt time).calls
          (r.finishingAt time).history = run := rfl
      rw [enter, enter, hstart]
      cases hover : run.isOver with
      | true =>
          simp only [if_true]
          exact ih { r with report := r.report.add run.close.report, calls := run.close.calls
                            history := run.close.history }
      | false =>
          simp only [Bool.false_eq_true, if_false]
          rfl

theorem leave_finishingAt (run : TierRun) (rest : List Tier) :
    (r.finishingAt time).leave run rest = (r.leave run rest).finishingAt time := by
  unfold leave
  cases run.result with
  | error a => exact abort_finishingAt time { r with calls := run.calls, history := run.history } a
  | ok report =>
      exact enter_finishingAt time { r with
        report := r.report.add report, calls := run.close.calls
        history := run.close.history } rest

theorem verify_finishingAt (serial : Nat) (reply : Reply (List TemplateDescriptor)) :
    (r.finishingAt time).verify serial reply = (r.verify serial reply).finishingAt time := by
  cases hsource : preflightError? r.topology reply.result with
  | some source =>
      rw [verify_of_preflightError hsource]
      exact verify_of_preflightError hsource
  | none =>
      rw [verify_of_fine hsource, begin, ← enter_finishingAt]
      exact verify_of_fine hsource

theorem move_finishingAt (platform : Platform) (index : Nat) :
    (r.finishingAt time).move platform index = (r.move platform index).finishingAt time := by
  obtain ⟨topology, options, stamp, report, stage, calls, history⟩ := r
  cases stage with
  | listing serial => exact verify_finishingAt time _ serial _
  | tier run rest =>
      cases hover : (run.move platform index).isOver with
      | true =>
          simp only [move, finishingAt, Stage.finishingAt, hover, if_true]
          exact leave_finishingAt time ⟨topology, options, stamp, report, .tier run rest, calls,
            history⟩ (run.move platform index) rest
      | false =>
          simp only [move, finishingAt, Stage.finishingAt, hover, Bool.false_eq_true, if_false]
  | _ => rfl

theorem run_finishingAt (platform : Platform) (schedule : List Nat) :
    (r.finishingAt time).run platform schedule = (r.run platform schedule).finishingAt time := by
  induction schedule generalizing r with
  | nil => rfl
  | cons index rest ih =>
      change ((r.finishingAt time).move platform index).run platform rest = _
      rw [move_finishingAt]
      exact ih (r.move platform index)

theorem result?_finishingAt :
    (r.finishingAt time).result? = r.result?.map (PolicyRollout.finishingAt time) := by
  obtain ⟨topology, options, stamp, report, stage, calls, history⟩ := r
  cases stage <;> rfl

end Commutes

variable {options : DeploymentOptions} {stamp : RunStamp} {topology : Topology} {r : Rollout}
  {platform : Platform}

theorem start_finishingAt (time : String) (options : DeploymentOptions) (stamp : RunStamp)
    (topology : Topology) (before : History) :
    Rollout.start options { stamp with finishedAt := time } topology before =
      (Rollout.start options stamp topology before).finishingAt time := by
  let report := Report.start stamp options.dryRun
  let r : Rollout := note
    (.started stamp.runId topology.tiers.length topology.entityCount options.dryRun)
    ⟨topology, options, stamp, report, .over (.ok report), 0, before⟩
  unfold Rollout.start
  by_cases hverify : options.verifyTemplates = true
  · simp only [hverify, if_true]
    rfl
  · simp only [hverify, Bool.false_eq_true, if_false]
    exact enter_finishingAt time r topology.deploymentOrder

/-- A deployment under another time of finishing is the same but for that time. -/
theorem run_start_finishingAt (time : String) (schedule : List Nat) :
    (Rollout.start options { stamp with finishedAt := time } topology []).run platform schedule =
      ((Rollout.start options stamp topology []).run platform schedule).finishingAt time := by
  rw [start_finishingAt, run_finishingAt]

/-- What is left behind by a deployment that is over is finished. -/
theorem Course.finishedAt_eq (hcourse : Course platform options stamp topology r)
    {result : Except DeploymentError Report} (hresult : r.result? = some result) :
    (reported result).finishedAt = some stamp.finishedAt := by
  rw [(hcourse.reported_eq hresult).1]
  rfl

end Rollout

end PolicyRollout
