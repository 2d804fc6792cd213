import PolicyRollout.Number.Basic
import PolicyRollout.Platform.Call
import PolicyRollout.Text.Basic
/-!
Reports.  A tier report lists what became of the entities of a tier, in their
order; a deployment report lists the tier reports in deployment order.
-/
namespace PolicyRollout

open Json (Value)

/-- What became of an entity. -/
inductive Outcome where
  | deployed (entity templateId : String) (ruleCount : Nat)
  | rejected (entity templateId : String) (errors : List String)
deriving DecidableEq, Repr

namespace Outcome

def entity : Outcome → String
  | .deployed entity .. => entity
  | .rejected entity .. => entity

def isDeployed : Outcome → Bool
  | .deployed .. => true
  | .rejected .. => false

def ruleCount : Outcome → Nat
  | .deployed _ _ n => n
  | .rejected .. => 0

/-- The errors for which the entity was refused. -/
def errors : Outcome → List String
  | .deployed .. => []
  | .rejected _ _ errors => errors

def toJson : Outcome → Value
  | .deployed entity templateId ruleCount =>
    .object [("status", .string "deployed"), ("entity", .string entity),
      ("template_id", .string templateId), ("rule_count", .nat ruleCount)]
  | .rejected entity templateId errors =>
    .object [("status", .string "rejected"), ("entity", .string entity),
      ("template_id", .string templateId), ("errors", .strings errors)]

end Outcome

/-- What became of the entities of a tier. -/
structure TierReport where
  tier : String
  kind : TierKind
  switch : String
  outcomes : List Outcome
deriving DecidableEq, Repr

namespace TierReport

/-- The report of a tier of which nothing is known yet. -/
def start (t : Tier) : TierReport :=
  ⟨t.name, t.kind, t.switch, []⟩

def deployed (r : TierReport) : Nat :=
  (r.outcomes.filter Outcome.isDeployed).length

/-- The number of entities that were refused. -/
def rejected (r : TierReport) : Nat :=
  r.outcomes.length - r.deployed

def totalRules (r : TierReport) : Nat :=
  total (r.outcomes.map Outcome.ruleCount)

/-- The outcomes of refused entities. -/
def rejections (r : TierReport) : List Outcome :=
  r.outcomes.filter fun o => !o.isDeployed

def toJson (r : TierReport) : Value :=
  .object [("tier", .string r.tier), ("kind", .string r.kind.name), ("switch", .string r.switch),
    ("outcomes", .array (r.outcomes.map Outcome.toJson))]

end TierReport

/-- The identity of a run: its id, and when it started and finished. -/
structure RunStamp where
  runId : String
  startedAt : String
  finishedAt : String
deriving DecidableEq, Repr

/-- What became of a deployment. -/
structure Report where
  runId : String
  dryRun : Bool
  startedAt : String
  finishedAt : Option String
  tiers : List TierReport
deriving DecidableEq, Repr

namespace Report

def start (stamp : RunStamp) (dryRun : Bool) : Report :=
  ⟨stamp.runId, dryRun, stamp.startedAt, none, []⟩

/-- The report of a run that ends. -/
def finish (stamp : RunStamp) (r : Report) : Report :=
  { r with finishedAt := some stamp.finishedAt }

def add (r : Report) (tier : TierReport) : Report :=
  { r with tiers := r.tiers ++ [tier] }

def deployed (r : Report) : Nat :=
  total (r.tiers.map TierReport.deployed)

/-- The number of entities that were refused. -/
def rejected (r : Report) : Nat :=
  total (r.tiers.map TierReport.rejected)

def totalRules (r : Report) : Nat :=
  total (r.tiers.map TierReport.totalRules)

/-- Whether no entity was refused. -/
def isClean (r : Report) : Bool :=
  r.rejected == 0

def toJson (r : Report) : Value :=
  .object [("run_id", .string r.runId), ("dry_run", .bool r.dryRun),
    ("started_at", .string r.startedAt), ("finished_at", .stringOrNull r.finishedAt),
    ("tiers", .array (r.tiers.map TierReport.toJson))]

def rejectionLines (o : Outcome) : List String :=
  ("    rejected: " ++ o.entity) :: o.errors.map ("      - " ++ ·)

def tierLines (r : TierReport) : List String :=
  ("  " ++ Text.padRight 20 r.tier ++ " " ++ Text.padRight 12 r.switch ++ " deployed " ++
      Text.padLeft 3 (Text.decimalText r.deployed) ++ "  rejected " ++
      Text.padLeft 3 (Text.decimalText r.rejected) ++ "  rules " ++
      Text.padLeft 4 (Text.decimalText r.totalRules)) ::
    r.rejections.flatMap rejectionLines

def text (r : Report) : String :=
  let title := "Deployment " ++ r.runId ++ (if r.dryRun then " (dry run)" else "")
  let total := "Total: " ++ Text.decimalText r.deployed ++ " deployed, " ++
    Text.decimalText r.rejected ++ " rejected, " ++ Text.decimalText r.totalRules ++ " rules"
  "\n".intercalate (title :: r.tiers.flatMap tierLines ++ [total])

end Report

/-- A tier that was given up because a call failed. -/
structure TierAborted where
  tier : String
  /-- The first entity whose call failed. -/
  entity : String
  /-- What became of all entities that were attempted. -/
  report : TierReport
  source : PlatformError
deriving DecidableEq, Repr

def TierAborted.message (a : TierAborted) : String :=
  "Tier '" ++ a.tier ++ "' aborted at entity '" ++ a.entity ++ "': " ++ a.source.message

/-- A deployment that was given up because a call failed. -/
structure DeploymentError where
  /-- The tier that was given up; none when no tier was begun. -/
  tier : Option String
  entity : Option String
  /-- What became of all entities before. -/
  completed : Report
  source : PlatformError
deriving DecidableEq, Repr

namespace DeploymentError

/-- Where the deployment was given up. -/
def place (e : DeploymentError) : String :=
  match e.tier, e.entity with
  | some tier, some entity => "tier '" ++ tier ++ "', entity '" ++ entity ++ "'"
  | some tier, none => "tier '" ++ tier ++ "'"
  | none, _ => "preflight"

def message (e : DeploymentError) : String :=
  "Deployment aborted at " ++ e.place ++ ": " ++ e.source.message

end DeploymentError

end PolicyRollout
