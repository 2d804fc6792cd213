import PolicyRollout.Deployment.Rollout
import PolicyRollout.Proofs.Deployment.Progress
/-!
The course of a deployment.  A deployment is a preflight, then complete runs of
the first tiers in deployment order, and then at most one run that is still
going on or was given up.  `Course` has a case for every such state, and every
deployment is always in one of them.
-/
namespace PolicyRollout

namespace TierRun

@[simp]
theorem close_report (r : TierRun) : r.close.report = r.report := by
  unfold close
  split <;> rfl

/-- Tiers that were deployed one after another without a failed call: their
runs, the calls made and the history after them. -/
inductive Passed (platform : Platform) (options : DeploymentOptions) (calls : Nat)
    (before : History) : List TierRun → Nat → History → Prop
  | none : Passed platform options calls before [] calls before
  | more {runs : List TierRun} {calls' : Nat} {history : History} {tier : Tier} {r : TierRun}
      (hpassed : Passed platform options calls before runs calls' history)
      (hreached : r.Reached platform options tier calls' history) (hover : r.isOver = true)
      (hok : r.failure = .none) :
      Passed platform options calls before (runs ++ [r]) r.close.calls r.close.history

end TierRun

namespace Rollout

/-- What a deployment records when it starts. -/
def startNote (options : DeploymentOptions) (stamp : RunStamp) (topology : Topology) : Occurrence :=
  .noted (.started stamp.runId topology.tiers.length topology.entityCount options.dryRun)

/-- The history while the templates are being listed. -/
def listingHistory (options : DeploymentOptions) (stamp : RunStamp) (topology : Topology) :
    History :=
  [.called 0 none listing, startNote options stamp topology]

/-- Why a deployment is given up after templates were listed. -/
def preflightError? (topology : Topology) :
    Except PlatformError (List TemplateDescriptor) → Option PlatformError
  | .error source => some source
  | .ok published => (missingTemplate topology published).map .unknownTemplate

/-- The calls made and the history before the first tier, if it comes to that. -/
inductive Opened (platform : Platform) (options : DeploymentOptions) (stamp : RunStamp)
    (topology : Topology) : Nat → History → Prop
  | unverified (hverify : options.verifyTemplates = false) :
      Opened platform options stamp topology 0 [startNote options stamp topology]
  | verified (hverify : options.verifyTemplates = true) (notes : List Event)
      {result : Except PlatformError (List TemplateDescriptor)}
      (hgives : platform.Gives listing result) (hfine : preflightError? topology result = none) :
      Opened platform options stamp topology 1
        (.answered 0 none (.listed result) ::
          (notes.map .noted ++ listingHistory options stamp topology))

/-- The report of a deployment that has finished some tiers. -/
def partialReport (options : DeploymentOptions) (stamp : RunStamp) (tiers : List TierReport) :
    Report :=
  { Report.start stamp options.dryRun with tiers }

/-- The states a deployment can be in. -/
inductive Course (platform : Platform) (options : DeploymentOptions) (stamp : RunStamp)
    (topology : Topology) : Rollout → Prop
  | listing (hverify : options.verifyTemplates = true) :
      Course platform options stamp topology
        { topology, options, stamp, report := partialReport options stamp [], stage := .listing 0
          calls := 1, history := listingHistory options stamp topology }
  | refused (hverify : options.verifyTemplates = true) (notes : List Event)
      {result : Except PlatformError (List TemplateDescriptor)} {source : PlatformError}
      (hgives : platform.Gives Rollout.listing result)
      (hsource : preflightError? topology result = some source) :
      Course platform options stamp topology
        { topology, options, stamp, report := partialReport options stamp []
          stage := .over (.error
            ⟨none, none, (partialReport options stamp []).finish stamp, source⟩)
          calls := 1
          history := .noted (.preflightFailed source) :: .answered 0 none (.listed result) ::
            (notes.map .noted ++ listingHistory options stamp topology) }
  | deploying {calls calls' : Nat} {before history : History} {runs : List TierRun} {tier : Tier}
      {rest : List Tier} {run : TierRun}
      (hopened : Opened platform options stamp topology calls before)
      (hpassed : TierRun.Passed platform options calls before runs calls' history)
      (horder : topology.deploymentOrder = runs.map TierRun.tier ++ tier :: rest)
      (hreached : run.Reached platform options tier calls' history) (hover : run.isOver = false) :
      Course platform options stamp topology
        { topology, options, stamp, report := partialReport options stamp (runs.map TierRun.report)
          stage := .tier run rest, calls := run.calls, history := run.history }
  | aborted {calls calls' : Nat} {before history : History} {runs : List TierRun} {tier : Tier}
      {rest : List Tier} {run : TierRun} {a : TierAborted} {report : Report}
      (hopened : Opened platform options stamp topology calls before)
      (hpassed : TierRun.Passed platform options calls before runs calls' history)
      (horder : topology.deploymentOrder = runs.map TierRun.tier ++ tier :: rest)
      (hreached : run.Reached platform options tier calls' history) (hover : run.isOver = true)
      (habort : run.result = .error a)
      (hreport : report =
        (partialReport options stamp (runs.map TierRun.report ++ [a.report])).finish stamp) :
      Course platform options stamp topology
        { topology, options, stamp, report
          stage := .over (.error ⟨some a.tier, some a.entity, report, a.source⟩)
          calls := run.calls
          history := .noted (.aborted report.runId a.tier report.deployed a.source) :: run.history }
  | completed {calls calls' : Nat} {before history : History} {runs : List TierRun}
      {report : Report} (hopened : Opened platform options stamp topology calls before)
      (hpassed : TierRun.Passed platform options calls before runs calls' history)
      (horder : topology.deploymentOrder = runs.map TierRun.tier)
      (hreport : report =
        (partialReport options stamp (runs.map TierRun.report)).finish stamp) :
      Course platform options stamp topology
        { topology, options, stamp, report, stage := .over (.ok report), calls := calls'
          history := .noted (.completed report.runId report.deployed report.rejected
            report.totalRules) :: history }

variable {platform : Platform} {options : DeploymentOptions} {stamp : RunStamp}
  {topology : Topology}

theorem enter_course {calls calls' : Nat} {before history : History} {runs : List TierRun}
    {tiers : List Tier} (stage : Stage)
    (hopened : Opened platform options stamp topology calls before)
    (hpassed : TierRun.Passed platform options calls before runs calls' history)
    (horder : topology.deploymentOrder = runs.map TierRun.tier ++ tiers) :
    Course platform options stamp topology
      (enter { topology, options, stamp, stage, calls := calls', history
               report := partialReport options stamp (runs.map TierRun.report) } tiers) := by
  induction tiers generalizing calls' history runs stage with
  | nil =>
      rw [List.append_nil] at horder
      exact .completed hopened hpassed horder rfl
  | cons tier rest ih =>
      have hreached : (TierRun.start options tier calls' history).Reached platform options tier
          calls' history := ⟨[], rfl⟩
      cases hover : (TierRun.start options tier calls' history).isOver with
      | false =>
          have hcourse := Course.deploying hopened hpassed horder hreached hover
          simpa [enter, hover] using hcourse
      | true =>
          have hpassed' := hpassed.more hreached hover rfl
          have horder' : topology.deploymentOrder =
              (runs ++ [TierRun.start options tier calls' history]).map TierRun.tier ++ rest := by
            rw [horder, List.map_append, List.append_assoc]
            rfl
          have hcourse := ih stage hpassed' horder'
          simpa [enter, hover, partialReport, Report.add] using hcourse

/-- A deployment goes on after a tier that has come to its end. -/
theorem leave_course {calls calls' : Nat} {before history : History} {runs : List TierRun}
    {tier : Tier} {rest : List Tier} {run : TierRun} (stage : Stage) (made : Nat) (past : History)
    (hopened : Opened platform options stamp topology calls before)
    (hpassed : TierRun.Passed platform options calls before runs calls' history)
    (horder : topology.deploymentOrder = runs.map TierRun.tier ++ tier :: rest)
    (hreached : run.Reached platform options tier calls' history) (hover : run.isOver = true) :
    Course platform options stamp topology
      (leave run rest { topology, options, stamp, stage, calls := made, history := past
                        report := partialReport options stamp (runs.map TierRun.report) }) := by
  cases hresult : run.result with
  | error a =>
      simp only [leave, hresult]
      exact .aborted hopened hpassed horder hreached hover hresult rfl
  | ok report =>
      obtain ⟨hok, rfl⟩ := TierRun.result_eq_ok_iff.mp hresult
      have hpassed' := hpassed.more hreached hover hok
      have horder' : topology.deploymentOrder = (runs ++ [run]).map TierRun.tier ++ rest := by
        rw [horder, List.map_append, List.append_assoc, List.map_singleton, hreached.tier_eq]
        rfl
      have hcourse := enter_course stage hopened hpassed' horder'
      simpa [leave, hresult, partialReport, Report.add] using hcourse

theorem start_course (platform : Platform) (options : DeploymentOptions) (stamp : RunStamp)
    (topology : Topology) :
    Course platform options stamp topology (Rollout.start options stamp topology []) := by
  cases hverify : options.verifyTemplates with
  | true =>
      have hcourse : Course platform options stamp topology _ := .listing hverify
      simp only [start, hverify, if_true]
      exact hcourse
  | false =>
      have hopened : Opened platform options stamp topology _ _ := .unverified hverify
      simp only [start, hverify, Bool.false_eq_true, if_false]
      exact enter_course _ hopened .none rfl

theorem foldl_note (events : List Event) (r : Rollout) :
    events.foldl (fun r e => r.note e) r =
      { r with history := events.reverse.map .noted ++ r.history } := by
  induction events generalizing r with
  | nil => rfl
  | cons event rest ih =>
      rw [List.foldl_cons, ih]
      simp [note]

theorem verify_course (hverify : options.verifyTemplates = true)
    {reply : Reply (List TemplateDescriptor)} (hgives : platform.Gives listing reply.result) :
    Course platform options stamp topology
      (verify 0 reply { topology, options, stamp, report := partialReport options stamp []
                        stage := .listing 0, calls := 1
                        history := listingHistory options stamp topology }) := by
  obtain ⟨result, notes⟩ := reply
  simp only [verify, foldl_note]
  cases result with
  | error source => exact .refused hverify notes.reverse hgives rfl
  | ok published =>
      cases hmissing : missingTemplate topology published with
      | some id =>
          have hsource : preflightError? topology (.ok published) = some (.unknownTemplate id) := by
            simp [preflightError?, hmissing]
          simp only [hmissing]
          exact .refused hverify notes.reverse hgives hsource
      | none =>
          have hfine : preflightError? topology (.ok published) = none := by
            simp [preflightError?, hmissing]
          simp only [hmissing]
          exact enter_course _ (.verified hverify notes.reverse hgives hfine) .none rfl

theorem move_course {r : Rollout} (hcourse : Course platform options stamp topology r)
    (index : Nat) : Course platform options stamp topology (r.move platform index) := by
  cases hcourse with
  | listing hverify => exact verify_course hverify ⟨_, _, rfl⟩
  | refused hverify notes hgives hsource => exact .refused hverify notes hgives hsource
  | aborted hopened hpassed horder hreached hover habort hreport =>
      exact .aborted hopened hpassed horder hreached hover habort hreport
  | completed hopened hpassed horder hreport => exact .completed hopened hpassed horder hreport
  | @deploying _ _ _ _ _ _ _ run hopened hpassed horder hreached _ =>
      cases hover : (run.move platform index).isOver with
      | true =>
          simp only [move, hover, if_true]
          exact leave_course _ _ _ hopened hpassed horder (hreached.move index) hover
      | false =>
          simp only [move, hover, Bool.false_eq_true, if_false]
          exact .deploying hopened hpassed horder (hreached.move index) hover

theorem Course.run {r : Rollout} (hcourse : Course platform options stamp topology r)
    (schedule : List Nat) : Course platform options stamp topology (r.run platform schedule) := by
  induction schedule generalizing r with
  | nil => exact hcourse
  | cons index rest ih => exact ih (move_course hcourse index)

/-- A deployment is always in a state of its course. -/
theorem run_course (platform : Platform) (options : DeploymentOptions) (stamp : RunStamp)
    (topology : Topology) (schedule : List Nat) :
    Course platform options stamp topology
      ((Rollout.start options stamp topology []).run platform schedule) :=
  (start_course ..).run schedule

end Rollout

end PolicyRollout
