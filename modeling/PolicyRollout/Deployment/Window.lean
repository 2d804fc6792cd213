import PolicyRollout.Deployment.Options
import PolicyRollout.Deployment.Report
/-!
The deployment of one tier.  Entities are admitted in their order to a window
of limited size.  An admitted entity is validated and, if it is accepted,
instantiated.  Entities in the window move independently: a move starts an
entity, or brings it the answer to its outstanding call.  When the entities at
the front of the window have finished they are reported in their order, and as
many are admitted in their place.

The first call that fails sets a flag.  An entity admitted after that is
skipped, but those in the window go on, so that the report covers every rule
that was created.

Which entity moves next is left open: `TierRun.move` takes it as an argument,
and a list of such choices is one order in which answers may arrive.
-/
namespace PolicyRollout

/-- How far an admitted entity has come. -/
inductive Phase where
  | admitted
  /-- Its validation has been asked for by the call of this serial number. -/
  | validating (serial : Nat)
  /-- Its instantiation has been asked for by the call of this serial number. -/
  | instantiating (serial : Nat)
  /-- It was passed over because a call had failed. -/
  | skipped
  | failed (source : PlatformError)
  | done (outcome : Outcome)
deriving DecidableEq, Repr

/-- Whether an entity will not move any more. -/
def Phase.isFinal : Phase → Bool
  | .skipped | .failed _ | .done _ => true
  | _ => false

/-- An admitted entity. -/
structure Slot where
  /-- Its position in the tier. -/
  index : Nat
  entity : Entity
  /-- Whether a call had failed when it was admitted. -/
  skip : Bool
  phase : Phase
deriving DecidableEq, Repr

/-- A tier under deployment. -/
structure TierRun where
  tier : Tier
  ctx : TierContext
  options : DeploymentOptions
  /-- The entities that have not been admitted, with their positions. -/
  waiting : List (Nat × Entity)
  /-- The entities that have been admitted and not reported, in their order. -/
  window : List Slot
  /-- Whether a call has failed. -/
  failed : Bool
  /-- What became of the entities that have been reported. -/
  outcomes : List Outcome
  /-- The first reported entity whose call failed. -/
  failure : Option (String × PlatformError)
  /-- The number of calls made since the deployment began. -/
  calls : Nat
  history : History

namespace TierRun

def note (e : Event) (r : TierRun) : TierRun :=
  { r with history := .noted e :: r.history }

def noteAll (events : List Event) (r : TierRun) : TierRun :=
  events.foldl (fun r e => r.note e) r

/-- What has become of the tier so far. -/
def report (r : TierRun) : TierReport :=
  { TierReport.start r.tier with outcomes := r.outcomes }

/-- The run after an entity at the front of the window has been reported. -/
def reportSlot (slot : Slot) (r : TierRun) : TierRun :=
  match slot.phase with
  | .done outcome => { r with outcomes := r.outcomes ++ [outcome] }
  | .failed source =>
    let r := r.note (.serviceFailure slot.entity.name r.tier.name source)
    { r with failure := r.failure.or (some (slot.entity.name, source)) }
  | _ => r.note (.skipping slot.entity.name r.tier.name)

/-- The run after the finished entities at the front of the window have been reported. -/
def drain (r : TierRun) : TierRun :=
  let finished := r.window.takeWhile (·.phase.isFinal)
  let r := { r with window := r.window.dropWhile (·.phase.isFinal) }
  finished.foldl (fun r slot => r.reportSlot slot) r

/-- The run after the window has been filled. -/
def refill (r : TierRun) : TierRun :=
  let room := r.options.window - r.window.length
  let slots := (r.waiting.take room).map fun (index, entity) =>
    Slot.mk index entity r.failed .admitted
  { r with window := r.window ++ slots, waiting := r.waiting.drop room }

/-- The run after all that needs no answer: reporting and admitting. -/
def settle (r : TierRun) : TierRun :=
  r.drain.refill

def setPhase (index : Nat) (phase : Phase) (r : TierRun) : TierRun :=
  { r with window := r.window.map fun slot =>
      if slot.index = index then { slot with phase } else slot }

/-- The run after a call has been made for an entity, which waits for it. -/
def ask (slot : Slot) (call : Call) (waits : Nat → Phase) (r : TierRun) : TierRun :=
  let r := { r with calls := r.calls + 1, history := .called r.calls (some slot.index) call ::
    r.history }
  r.setPhase slot.index (waits (r.calls - 1))

/-- The run after a call has been answered. -/
def answered (slot : Slot) (serial : Nat) (outturn : Outturn) (notes : List Event)
    (r : TierRun) : TierRun :=
  let r := r.noteAll notes
  { r with history := .answered serial (some slot.index) outturn :: r.history }

/-- The run after a call for an entity has failed. -/
def fail (slot : Slot) (source : PlatformError) (r : TierRun) : TierRun :=
  { r with failed := true }.setPhase slot.index (.failed source)

def validation (r : TierRun) (slot : Slot) : Call :=
  .validate r.ctx.templateId (slot.entity.vars r.ctx)

def instantiation (r : TierRun) (slot : Slot) : Call :=
  .instantiate r.ctx.templateId (slot.entity.vars r.ctx) (some r.ctx.switch) r.options.dryRun

/-- An admitted entity starts: it is skipped, or its validation is asked for. -/
def startSlot (slot : Slot) (r : TierRun) : TierRun :=
  if slot.skip then r.setPhase slot.index .skipped
  else
    let r := r.noteAll ((slot.entity.unlistedDependencies r.ctx).map .droppedDependency)
    let r := r.note (.configuring slot.entity.name slot.entity.ip r.ctx.templateId)
    r.ask slot (r.validation slot) .validating

/-- The answer to its validation reaches an entity. -/
def judge (slot : Slot) (serial : Nat) (reply : Reply Verdict) (r : TierRun) : TierRun :=
  let r := r.answered slot serial (.judged reply.result) reply.notes
  match reply.result with
  | .error source => r.fail slot source
  | .ok verdict =>
    if verdict.valid then r.ask slot (r.instantiation slot) .instantiating
    else
      let r := r.note (.validationFailed slot.entity.name verdict.errors)
      r.setPhase slot.index
        (.done (.rejected slot.entity.name r.ctx.templateId verdict.errors))

/-- The answer to its instantiation reaches an entity. -/
def create (slot : Slot) (serial : Nat) (reply : Reply Creation) (r : TierRun) : TierRun :=
  let r := r.answered slot serial (.created reply.result) reply.notes
  match reply.result with
  | .error source => r.fail slot source
  | .ok creation =>
    let r := r.note (.created r.options.dryRun creation.ruleCount slot.entity.name)
    r.setPhase slot.index
      (.done (.deployed slot.entity.name r.ctx.templateId creation.ruleCount))

/-- The run after one entity has moved, before reporting and admitting. -/
def moveSlot (platform : Platform) (slot : Slot) (r : TierRun) : TierRun :=
  match slot.phase with
  | .admitted => r.startSlot slot
  | .validating serial =>
    let call := r.validation slot
    r.judge slot serial (platform r.history serial call)
  | .instantiating serial =>
    let call := r.instantiation slot
    r.create slot serial (platform r.history serial call)
  | _ => r

/-- The admitted entity at a position of the tier. -/
def slot? (r : TierRun) (index : Nat) : Option Slot :=
  r.window.find? (·.index = index)

/-- The run after the entity at a position has moved; nothing happens if that
entity is not in the window. -/
def move (platform : Platform) (index : Nat) (r : TierRun) : TierRun :=
  match r.slot? index with
  | none => r
  | some slot => (r.moveSlot platform slot).settle

/-- The run of a tier that begins, after `calls` calls and what else happened before. -/
def start (options : DeploymentOptions) (tier : Tier) (calls : Nat) (history : History) :
    TierRun :=
  let r : TierRun := {
    tier
    ctx := .ofTier tier
    options
    waiting := tier.entities.toList.zipIdx.map fun (entity, index) => (index, entity)
    window := []
    failed := false
    outcomes := []
    failure := none
    calls
    history }
  (r.note (.deployingTier tier.kind tier.name tier.switch tier.entities.size)).refill

def isOver (r : TierRun) : Bool :=
  r.window.isEmpty

/-- What the tier came to, when all entities have been reported. -/
def result (r : TierRun) : Except TierAborted TierReport :=
  match r.failure with
  | some (entity, source) => .error ⟨r.tier.name, entity, r.report, source⟩
  | none => .ok r.report

/-- The run with its good end recorded. -/
def close (r : TierRun) : TierRun :=
  match r.failure with
  | some _ => r
  | none =>
    let report := r.report
    r.note (.tierDone r.tier.name report.deployed report.rejected report.totalRules)

/-- The run after moves in a given order. -/
def run (platform : Platform) (schedule : List Nat) (r : TierRun) : TierRun :=
  schedule.foldl (fun r index => r.move platform index) r

/-- The call an admitted entity waits for, by its serial number. -/
def outstanding? (r : TierRun) (slot : Slot) : Option (Nat × Call) :=
  match slot.phase with
  | .validating serial => some (serial, r.validation slot)
  | .instantiating serial => some (serial, r.instantiation slot)
  | _ => none

/-- The first admitted entity that has not started. -/
def ready? (r : TierRun) : Option Nat :=
  (r.window.find? (·.phase = .admitted)).map (·.index)

end TierRun

end PolicyRollout
