import PolicyRollout.Cli.Dialogue
import PolicyRollout.Deployment.Rollout
import PolicyRollout.Http.Client
import PolicyRollout.Topology.Reference
/-!
The command that deploys a topology.  The settings, the topology and the client
come first; nothing is sent unless all of them are good.  The deployment then
goes on as answers arrive, and its report is printed also when it is given up.
-/
namespace PolicyRollout.Cli

open Http (Client)

def withSettings (lookup : String → Option String) (next : Settings → Dialogue) : Dialogue :=
  match Settings.ofLookup lookup with
  | .error source => .fail (.settings source)
  | .ok settings => next settings

/-- Go on with the topology of a file, or else with the reference topology. -/
def withTopology (path : Option String) (next : Topology → Dialogue) : Dialogue :=
  match path with
  | none => .record .usingReference (next Reference.topology)
  | some path =>
    .record (.loadingTopology path) <| .readFile path fun content =>
      match Topology.ofContent path content with
      | .error source => .fail (.topology path source)
      | .ok topology => next topology

def withClient (settings : ServiceSettings) (next : Client → Dialogue) : Dialogue :=
  .record (Client.announcement settings) <|
    match Client.ofSettings settings with
    | .error source => .fail (.client source)
    | .ok client => next client

/-- The options of a deployment: arguments add to what is set, and a given
concurrency takes the place of the one that is set. -/
def effectiveOptions (a : DeployArguments) (o : DeploymentOptions) : DeploymentOptions where
  dryRun := o.dryRun || a.dryRun
  entityConcurrency := a.concurrency.getD o.entityConcurrency
  verifyTemplates := o.verifyTemplates || a.verifyTemplates

def ReportFormat.render : ReportFormat → Report → String
  | .text, report => report.text ++ "\n"
  | .json, report => report.toJson.prettyText ++ "\n"

/-- A call that waits for its answer, and the position of its entity. -/
structure Pending where
  serial : Nat
  index : Nat
  call : Call

/-- The calls of a deployment that wait for their answers, in the order in
which they were made. -/
def pending (r : Rollout) : List Pending :=
  match r.stage with
  | .over _ => []
  | .listing serial => [⟨serial, 0, Rollout.listing⟩]
  | .tier run _ =>
    (run.window.filterMap fun slot => (run.outstanding? slot).map fun (serial, call) =>
      Pending.mk serial slot.index call).mergeSort fun a b => a.serial ≤ b.serial

/-- What happened between two states of a deployment, in its order. -/
def happened (before after : Rollout) : List Occurrence :=
  (after.history.take (after.history.length - before.history.length)).reverse

/-- One deployment, how it is carried out and how its report is printed. -/
structure DeployJob where
  client : Client
  timeout : Nat
  format : ReportFormat

namespace DeployJob

/-- Tell the world what has happened: events are recorded, and calls are sent
if they can be written. -/
def tell (job : DeployJob) (occurrence : Occurrence) (next : Dialogue) : Dialogue :=
  match occurrence with
  | .noted event => .record event next
  | .called _ _ call => match job.client.request? call with
    | some request => .send job.timeout request next
    | none => next
  | .answered .. => next

/-- Print the report and stop. -/
def conclude (job : DeployJob) (result : Except DeploymentError Report) : Dialogue :=
  .askTime fun time =>
    let render (report : Report) : String :=
      job.format.render { report with finishedAt := some time }
    match result with
    | .ok report => .say (render report) (.stop .success)
    | .error source => .say (render source.completed) (.fail (.deployment source))

/-- The deployment after the entity at a position has moved. -/
def move (job : DeployJob) (exchange : Http.Exchange) (index : Nat) (r : Rollout) : Rollout :=
  r.move (job.client.platform fun _ => exchange) index

/-- Carry a deployment on, for so many moves at most.  Calls that cannot be
written fail at once; then entities start that can; then an answer is awaited. -/
def carryOn (job : DeployJob) : (moves : Nat) → Rollout → Dialogue
  | 0, r => job.conclude (r.result?.getD (.ok r.report))
  | moves + 1, r =>
    let goOn (r' : Rollout) : Dialogue := (happened r r').foldr job.tell (carryOn job moves r')
    match r.result? with
    | some result => job.conclude result
    | none =>
      match (pending r).find? fun p => (job.client.request? p.call).isNone with
      | some p => goOn (job.move .unanswered p.index r)
      | none => match r.current?.bind TierRun.ready? with
        | some index => goOn (job.move .unanswered index r)
        | none => .await fun which exchange =>
          goOn (job.move exchange (((pending r)[which]?.map (·.index)).getD 0) r)

/-- As many moves as a deployment can take: templates are listed once, and every
entity starts, is judged and is created. -/
def enough (t : Topology) : Nat :=
  3 * t.entityCount + 2

def carryOut (job : DeployJob) (options : DeploymentOptions) (t : Topology) : Dialogue :=
  .askRunId fun runId => .askTime fun time =>
    let r := Rollout.start options ⟨runId, time, time⟩ t []
    r.history.reverse.foldr job.tell (job.carryOn (enough t) r)

end DeployJob

def deployTopology (lookup : String → Option String) (a : DeployArguments) : Dialogue :=
  withSettings lookup fun settings =>
    if a.concurrency = some 0 then .fail .noConcurrency
    else .record (.apiAddress settings.service.baseUrl) <|
      withTopology a.topology fun topology =>
        withClient settings.service fun client =>
          let job : DeployJob := ⟨client, settings.service.timeoutSeconds, a.format⟩
          job.carryOut (effectiveOptions a settings.options) topology

end PolicyRollout.Cli
