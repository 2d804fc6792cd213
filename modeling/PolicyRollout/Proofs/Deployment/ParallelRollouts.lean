import PolicyRollout.Proofs.Deployment.Growth
import PolicyRollout.Proofs.Deployment.Parallel
import PolicyRollout.Proofs.Deployment.TierBarrier
/-!
Two deployments side by side.  They are of the same topology and make the same moves,
and as long as the answers they get are alike they stay in step: they make the same
calls, deploy the same tiers and come to the same end.
-/
namespace PolicyRollout

/-- The call an occurrence makes, with its serial number and the position of its entity. -/
def Occurrence.made? : Occurrence → Option (Nat × Option Nat × Call)
  | .called serial entity call => some (serial, entity, call)
  | _ => none

/-- The calls of a history, the latest first. -/
def History.made (h : History) : List (Nat × Option Nat × Call) :=
  h.filterMap Occurrence.made?

theorem History.made_exchanges (h : History) : made (exchanges h) = made h := by
  unfold made exchanges
  rw [List.filterMap_filter]
  apply List.filterMap_congr
  intro o _
  cases o <;> rfl

theorem History.made_notes (events : List Event) (h : History) :
    made (events.map .noted ++ h) = made h := by
  simp [made, List.filterMap_append, Occurrence.made?]

/-- The calls of the first are those it made before, and then those of the second. -/
theorem Comparison.Past.made_eq {c : Comparison} {h h' : History} (hpast : c.Past h h') :
    h.made = h'.made.map (fun (serial, entity, call) =>
      (serial + c.ahead, entity, call.withDryRun c.dryRun)) ++ c.base.made := by
  obtain ⟨later, heq, hpairs⟩ := hpast
  rw [← History.made_exchanges h, ← History.made_exchanges h', heq, History.made,
    List.filterMap_append]
  congr 1
  clear heq
  generalize h'.exchanges = earlier at hpairs
  induction hpairs with
  | nil => rfl
  | cons hpair _ ih =>
      cases hpair with
      | called serial entity call => simpa [Occurrence.made?, History.made] using ih
      | answered serial entity halike => exact ih

namespace Rollout

/-- Two deployments came to the same: equal reports on tiers, and the same failure if
there was one. -/
inductive Agrees : Except DeploymentError Report → Except DeploymentError Report → Prop
  | ok {report report' : Report} (htiers : report.tiers = report'.tiers) :
      Agrees (.ok report) (.ok report')
  | error {report report' : Report} (htiers : report.tiers = report'.tiers)
      (tier entity : Option String) (source : PlatformError) :
      Agrees (.error ⟨tier, entity, report, source⟩) (.error ⟨tier, entity, report', source⟩)

/-- The stages of two deployments that are in step. -/
inductive StagesInStep (c : Comparison) : Stage → Stage → Prop
  | listing (serial : Nat) : StagesInStep c (.listing (serial + c.ahead)) (.listing serial)
  | tier {run run' : TierRun} (hrun : run.InStep c run') (rest : List Tier) :
      StagesInStep c (.tier run rest) (.tier run' rest)
  | ended {result result' : Except DeploymentError Report} (hagrees : Agrees result result') :
      StagesInStep c (.over result) (.over result')

/-- Two deployments that are in step, whatever their stages. -/
structure Abreast (c : Comparison) (r r' : Rollout) : Prop where
  topology : r.topology = r'.topology
  window : r.options.window = r'.options.window
  dryRun : r.options.dryRun = c.dryRun
  dryRun' : r'.options.dryRun = c.dryRun'
  tiers : r.report.tiers = r'.report.tiers
  calls : r.calls = r'.calls + c.ahead
  past : c.Past r.history r'.history

structure InStep (c : Comparison) (r r' : Rollout) : Prop extends Abreast c r r' where
  stages : StagesInStep c r.stage r'.stage

variable {c : Comparison} {r r' : Rollout}

theorem Abreast.complete (habreast : r.Abreast c r') : r.complete.InStep c r'.complete := by
  have htiers : (r.report.finish r.stamp).tiers = (r'.report.finish r'.stamp).tiers :=
    habreast.tiers
  exact {
    toAbreast := { habreast with past := habreast.past.noted _ _ }
    stages := .ended (.ok htiers) }

theorem Abreast.refuse (habreast : r.Abreast c r') (source : PlatformError) :
    (r.refuse source).InStep c (r'.refuse source) := by
  have htiers : (r.report.finish r.stamp).tiers = (r'.report.finish r'.stamp).tiers :=
    habreast.tiers
  exact {
    toAbreast := { habreast with past := habreast.past.noted _ _ }
    stages := .ended (.error htiers none none source) }

theorem Abreast.abort (habreast : r.Abreast c r') (a : TierAborted) :
    (r.abort a).InStep c (r'.abort a) := by
  have htiers : ((r.report.add a.report).finish r.stamp).tiers =
      ((r'.report.add a.report).finish r'.stamp).tiers :=
    congrArg (· ++ [a.report]) habreast.tiers
  exact {
    toAbreast := { habreast with past := habreast.past.noted _ _, tiers := htiers }
    stages := .ended (.error htiers (some a.tier) (some a.entity) a.source) }

/-- A tier is under way in both. -/
theorem Abreast.deploying (habreast : r.Abreast c r') {run run' : TierRun}
    (hrun : run.InStep c run') (rest : List Tier) :
    ({ r with stage := .tier run rest, calls := run.calls, history := run.history } :
        Rollout).InStep c
      { r' with stage := .tier run' rest, calls := run'.calls, history := run'.history } where
  toAbreast := { habreast with calls := hrun.calls_eq, past := hrun.past }
  stages := .tier hrun rest

/-- A tier has been deployed in both. -/
theorem Abreast.deployed (habreast : r.Abreast c r') {run run' : TierRun}
    (hrun : run.InStep c run') :
    ({ r with report := r.report.add run.report, calls := run.close.calls,
              history := run.close.history } : Rollout).Abreast c
      { r' with report := r'.report.add run'.report, calls := run'.close.calls,
                history := run'.close.history } where
  topology := habreast.topology
  window := habreast.window
  dryRun := habreast.dryRun
  dryRun' := habreast.dryRun'
  tiers := by
    rw [Report.add, Report.add, habreast.tiers, hrun.report_eq]
  calls := hrun.close.calls_eq
  past := hrun.close.past

/-- Tiers begin in both. -/
theorem Abreast.enter (habreast : r.Abreast c r') (tiers : List Tier) :
    (r.enter tiers).InStep c (r'.enter tiers) := by
  induction tiers generalizing r r' with
  | nil => exact habreast.complete
  | cons tier rest ih =>
      have hrun := TierRun.start_inStep habreast.window habreast.dryRun habreast.dryRun'
        habreast.past tier r'.calls
      rw [← habreast.calls] at hrun
      unfold Rollout.enter
      simp only [hrun.isOver_eq, TierRun.close_report]
      cases hover : (TierRun.start r'.options tier r'.calls r'.history).isOver with
      | true => exact ih (habreast.deployed hrun)
      | false => exact habreast.deploying hrun rest

/-- A tier comes to its end in both. -/
theorem Abreast.leave (habreast : r.Abreast c r') {run run' : TierRun}
    (hrun : run.InStep c run') (rest : List Tier) :
    (r.leave run rest).InStep c (r'.leave run' rest) := by
  unfold Rollout.leave
  rw [hrun.result_eq]
  cases hresult : run'.result with
  | error a =>
      apply Abreast.abort
      exact { habreast with calls := hrun.calls_eq, past := hrun.past }
  | ok report =>
      apply Abreast.enter
      exact { habreast with
        tiers := congrArg (· ++ [report]) habreast.tiers
        calls := hrun.close.calls_eq
        past := hrun.close.past }

theorem Abreast.begin (habreast : r.Abreast c r') : r.begin.InStep c r'.begin := by
  unfold Rollout.begin
  rw [habreast.topology]
  exact habreast.enter _

/-- Templates have been listed in both. -/
theorem Abreast.verify (habreast : r.Abreast c r') (serial : Nat)
    {reply reply' : Reply (List TemplateDescriptor)}
    (halike : c.alike (.listed reply.result) (.listed reply'.result)) :
    (r.verify (serial + c.ahead) reply).InStep c (r'.verify serial reply') := by
  obtain ⟨result, notes⟩ := reply
  obtain ⟨result', notes'⟩ := reply'
  have hheard : (r.heard (serial + c.ahead) ⟨result, notes⟩).Abreast c
      (r'.heard serial ⟨result', notes'⟩) :=
    { habreast with past := (habreast.past.notes _ _).answered serial none halike }
  cases c.alike_sound halike with
  | listed result =>
      cases hsource : preflightError? r'.topology result with
      | some source =>
          rw [verify_of_preflightError (habreast.topology ▸ hsource),
            verify_of_preflightError hsource]
          exact hheard.refuse source
      | none =>
          rw [verify_of_fine (habreast.topology ▸ hsource), verify_of_fine hsource]
          exact hheard.begin

variable {platform platform' : Platform}

/-- The entity at a position moves in both. -/
theorem InStep.move (hstep : r.InStep c r') (index : Nat)
    (hmeets : c.Meets (r.answer? platform index) (r'.answer? platform' index)) :
    (r.move platform index).InStep c (r'.move platform' index) := by
  obtain ⟨habreast, hstages⟩ := hstep
  obtain ⟨topology, options, stamp, report, stage, calls, history⟩ := r
  obtain ⟨topology', options', stamp', report', stage', calls', history'⟩ := r'
  cases hstages with
  | listing serial => exact habreast.verify serial (hmeets _ _ _ rfl rfl)
  | tier hrun rest =>
      have hmove := hrun.move index hmeets
      simp only [Rollout.move, hmove.isOver_eq]
      cases hover : (TierRun.move platform' index _).isOver with
      | true => exact habreast.leave hmove rest
      | false => exact habreast.deploying hmove rest
  | ended hagrees => exact ⟨habreast, .ended hagrees⟩

/-- Deployments whose answers are always alike stay in step. -/
theorem InStep.run (hstep : r.InStep c r') (schedule : List Nat)
    (hmeets : ∀ front index back, schedule = front ++ index :: back →
      (r.run platform front).InStep c (r'.run platform' front) →
      c.Meets ((r.run platform front).answer? platform index)
        ((r'.run platform' front).answer? platform' index)) :
    (r.run platform schedule).InStep c (r'.run platform' schedule) := by
  induction schedule generalizing r r' with
  | nil => exact hstep
  | cons index rest ih =>
      have hmove := hstep.move index (hmeets [] index rest rfl hstep)
      apply ih hmove
      intro front index' back hrest hfront
      exact hmeets (index :: front) index' back (congrArg (index :: ·) hrest) hfront

/-- What a deployment came to, under other options and another stamp. -/
def rerun (options : DeploymentOptions) (stamp : RunStamp) :
    Except DeploymentError Report → Except DeploymentError Report
  | .ok report => .ok (finishedReport options stamp report.tiers)
  | .error e => .error { e with completed := finishedReport options stamp e.completed.tiers }

variable {options : DeploymentOptions} {stamp : RunStamp} {topology : Topology}

theorem Course.rerun_eq (hcourse : Course platform options stamp topology r)
    {result : Except DeploymentError Report} (hresult : r.result? = some result) :
    rerun options stamp result = result := by
  have hreported := (hcourse.reported_eq hresult).1
  cases result with
  | ok report => exact congrArg Except.ok hreported.symm
  | error e =>
      obtain ⟨tier, entity, completed, source⟩ := e
      have hcompleted : completed = finishedReport options stamp completed.tiers := hreported
      rw [rerun, ← hcompleted]

theorem Agrees.rerun_eq {result result' : Except DeploymentError Report}
    (hagrees : Agrees result result') :
    rerun options stamp result = rerun options stamp result' := by
  cases hagrees with
  | ok htiers => rw [rerun, rerun, htiers]
  | error htiers tier entity source => rw [rerun, rerun, htiers]

/-- Deployments in step come to the same. -/
theorem InStep.result?_eq (hstep : r.InStep c r')
    (hcourse : Course platform options stamp topology r) :
    r.result? = r'.result?.map (rerun options stamp) := by
  have hstages := hstep.stages
  unfold result?
  generalize hstage : r.stage = stage at hstages
  generalize r'.stage = stage' at hstages
  cases hstages with
  | listing serial => rfl
  | tier hrun rest => rfl
  | @ended result result' hagrees =>
      have hresult : r.result? = some result := by rw [result?, hstage]
      rw [Option.map_some, ← hagrees.rerun_eq, hcourse.rerun_eq hresult]

/-- Deployments of the same topology start in step. -/
theorem start_inStep {options' : DeploymentOptions} (hahead : c.ahead = 0) (hbase : c.base = [])
    (hverify : options.verifyTemplates = options'.verifyTemplates)
    (hwindow : options.window = options'.window) (hdryRun : options.dryRun = c.dryRun)
    (hdryRun' : options'.dryRun = c.dryRun') (stamp stamp' : RunStamp) (topology : Topology) :
    (Rollout.start options stamp topology []).InStep c
      (Rollout.start options' stamp' topology []) := by
  obtain ⟨ahead, base, dryRun, dryRun', alike, hsound⟩ := c
  obtain rfl : ahead = 0 := hahead
  obtain rfl : base = [] := hbase
  have hpast : Comparison.Past ⟨0, [], dryRun, dryRun', alike, hsound⟩ [] [] := ⟨[], rfl, .nil⟩
  have hnoted := hpast.noted (.started stamp.runId topology.tiers.length topology.entityCount
    options.dryRun) (.started stamp'.runId topology.tiers.length topology.entityCount
    options'.dryRun)
  unfold Rollout.start
  cases hverified : options'.verifyTemplates with
  | true =>
      simp only [hverify, hverified, if_true]
      exact ⟨⟨rfl, hwindow, hdryRun, hdryRun', rfl, rfl, hnoted.called 0 none listing⟩, .listing 0⟩
  | false =>
      simp only [hverify, hverified, Bool.false_eq_true, if_false]
      exact Abreast.begin ⟨rfl, hwindow, hdryRun, hdryRun', rfl, rfl, hnoted⟩

end Rollout

end PolicyRollout
