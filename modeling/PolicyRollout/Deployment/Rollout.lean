import PolicyRollout.Deployment.Window
/-!
The deployment of a whole topology: the templates are verified first if that
is wanted, and then one tier after another is deployed in deployment order.  A
tier that is given up ends the deployment.

A deployment is a state that moves, like that of one tier: `Rollout.move`
takes the position of the entity that moves next.  While the templates are
being listed any move brings the answer.
-/
namespace PolicyRollout

/-- What a deployment is at. -/
inductive Stage where
  /-- The templates are being listed by the call of this serial number. -/
  | listing (serial : Nat)
  /-- A tier is being deployed; others follow. -/
  | tier (run : TierRun) (rest : List Tier)
  | over (result : Except DeploymentError Report)

structure Rollout where
  topology : Topology
  options : DeploymentOptions
  stamp : RunStamp
  /-- The tiers that have been finished. -/
  report : Report
  stage : Stage
  calls : Nat
  history : History

namespace Rollout

def note (e : Event) (r : Rollout) : Rollout :=
  { r with history := .noted e :: r.history }

/-- The deployment is given up before any tier. -/
def refuse (source : PlatformError) (r : Rollout) : Rollout :=
  let r := r.note (.preflightFailed source)
  { r with stage := .over (.error ⟨none, none, r.report.finish r.stamp, source⟩) }

/-- The deployment is given up in a tier. -/
def abort (a : TierAborted) (r : Rollout) : Rollout :=
  let report := (r.report.add a.report).finish r.stamp
  let r := r.note (.aborted report.runId a.tier report.deployed a.source)
  { r with report, stage := .over (.error ⟨some a.tier, some a.entity, report, a.source⟩) }

def complete (r : Rollout) : Rollout :=
  let report := r.report.finish r.stamp
  let r := r.note (.completed report.runId report.deployed report.rejected report.totalRules)
  { r with report, stage := .over (.ok report) }

/-- The tiers begin in turn; one without entities is over at once. -/
def enter (r : Rollout) : (tiers : List Tier) → Rollout
  | [] => r.complete
  | tier :: rest =>
    let run := TierRun.start r.options tier r.calls r.history
    if run.isOver then
      let run := run.close
      enter { r with report := r.report.add run.report, calls := run.calls,
                     history := run.history } rest
    else { r with stage := .tier run rest, calls := run.calls, history := run.history }

/-- The deployment after its tier has come to an end. -/
def leave (run : TierRun) (rest : List Tier) (r : Rollout) : Rollout :=
  match run.result with
  | .error aborted => { r with calls := run.calls, history := run.history }.abort aborted
  | .ok report =>
    let run := run.close
    { r with report := r.report.add report, calls := run.calls, history := run.history }.enter rest

/-- The tiers begin, in deployment order. -/
def begin (r : Rollout) : Rollout :=
  r.enter r.topology.deploymentOrder

/-- The first template a topology needs that is not published. -/
def missingTemplate (topology : Topology) (published : List TemplateDescriptor) :
    Option String :=
  topology.templateIds.find? fun id => !(published.map (·.id)).contains id

/-- The listing of templates has been answered. -/
def verify (serial : Nat) (reply : Reply (List TemplateDescriptor)) (r : Rollout) : Rollout :=
  let r := reply.notes.foldl (fun r e => r.note e) r
  let r := { r with history := .answered serial none (.listed reply.result) :: r.history }
  match reply.result with
  | .error source => r.refuse source
  | .ok published =>
    match missingTemplate r.topology published with
    | some id => r.refuse (.unknownTemplate id)
    | none => r.begin

/-- The call that lists all templates. -/
def listing : Call := .list none []

def start (options : DeploymentOptions) (stamp : RunStamp) (topology : Topology)
    (history : History) : Rollout :=
  let report := Report.start stamp options.dryRun
  let r : Rollout := ⟨topology, options, stamp, report, .over (.ok report), 0, history⟩
  let r := r.note (.started stamp.runId topology.tiers.length topology.entityCount options.dryRun)
  if options.verifyTemplates then
    { r with stage := .listing 0, calls := 1, history := .called 0 none listing :: r.history }
  else r.begin

/-- The deployment after the entity at a position of its tier has moved. -/
def move (platform : Platform) (index : Nat) (r : Rollout) : Rollout :=
  match r.stage with
  | .over _ => r
  | .listing serial => r.verify serial (platform r.history serial listing)
  | .tier run rest =>
    let run := run.move platform index
    if run.isOver then r.leave run rest
    else { r with stage := .tier run rest, calls := run.calls, history := run.history }

/-- The deployment after moves in a given order. -/
def run (platform : Platform) (schedule : List Nat) (r : Rollout) : Rollout :=
  schedule.foldl (fun r index => r.move platform index) r

/-- What the deployment came to, once it is over. -/
def result? (r : Rollout) : Option (Except DeploymentError Report) :=
  match r.stage with
  | .over result => some result
  | _ => none

def events (r : Rollout) : List Event :=
  (r.history.filterMap fun
    | .noted e => some e
    | _ => none).reverse

/-- The tier that is being deployed. -/
def current? (r : Rollout) : Option TierRun :=
  match r.stage with
  | .tier run _ => some run
  | _ => none

end Rollout

end PolicyRollout
