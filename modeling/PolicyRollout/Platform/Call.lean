import PolicyRollout.Plan.Basic
import PolicyRollout.Platform.Creation
import PolicyRollout.Platform.Error
import PolicyRollout.Platform.Template
import PolicyRollout.Platform.Verdict
import PolicyRollout.Text.Quoted
/-!
Calls to the policy platform, what they are answered with, and the events a
deployment records.  A platform answers a call by its serial number, what has
happened before, and the call itself; nothing else is known about it.
-/
namespace PolicyRollout

inductive Call where
  | list (category : Option String) (tags : List String)
  | validate (templateId : String) (vars : Variables)
  | instantiate (templateId : String) (vars : Variables) (targetSwitch : Option String)
      (dryRun : Bool)
deriving DecidableEq, Repr

def Call.Result : Call → Type
  | .list .. => List TemplateDescriptor
  | .validate .. => Verdict
  | .instantiate .. => Creation

/-- How grave an event is. -/
inductive Level where
  | error
  | warn
  | info
  | debug
deriving DecidableEq, Repr

def Level.name : Level → String
  | .error => "ERROR"
  | .warn => "WARN"
  | .info => "INFO"
  | .debug => "DEBUG"

/-- Levels by gravity, the gravest first. -/
def Level.rank : Level → Nat
  | .error => 1
  | .warn => 2
  | .info => 3
  | .debug => 4

/-- Something worth recording. -/
inductive Event where
  | droppedDependency (name : String)
  | deployingTier (kind : TierKind) (tier switch : String) (entities : Nat)
  | configuring (entity ip templateId : String)
  | validationFailed (entity : String) (errors : List String)
  | created (dryRun : Bool) (rules : Nat) (entity : String)
  | serviceFailure (entity tier : String) (source : PlatformError)
  | skipping (entity tier : String)
  | tierDone (tier : String) (deployed rejected rules : Nat)
  | started (runId : String) (tiers entities : Nat) (dryRun : Bool)
  | preflightFailed (source : PlatformError)
  | aborted (runId tier : String) (deployed : Nat) (source : PlatformError)
  | completed (runId : String) (deployed rejected rules : Nat)
  | usingService (baseUrl : String)
  | listed (templates : Nat)
  | validated (templateId : String) (valid : Bool)
  | instantiated (templateId : String) (rules : Nat) (dryRun : Bool)
  | apiAddress (baseUrl : String)
  | loadingTopology (path : String)
  | usingReference
  | templatesFound (templates : Nat)
deriving DecidableEq, Repr

namespace Event

def level : Event → Level
  | .droppedDependency _ | .skipping .. | .listed _ | .validated .. | .instantiated .. => .debug
  | .validationFailed .. => .warn
  | .serviceFailure .. | .preflightFailed _ | .aborted .. => .error
  | _ => .info

/-- The part of the program an event comes from. -/
def target : Event → String
  | .droppedDependency _ => "cim_policy_orchestrator::variables"
  | .deployingTier .. | .configuring .. | .validationFailed .. | .created .. |
    .serviceFailure .. | .skipping .. | .tierDone .. => "cim_policy_orchestrator::deployer"
  | .started .. | .preflightFailed _ | .aborted .. | .completed .. =>
    "cim_policy_orchestrator::orchestrator"
  | .usingService _ | .listed _ | .validated .. | .instantiated .. =>
    "cim_policy_orchestrator::client::http"
  | .apiAddress _ | .loadingTopology _ | .usingReference | .templatesFound _ =>
    "policy_deployer"

/-- A number in decimal digits. -/
def num (n : Nat) : String := Text.decimalText n

def truthName (b : Bool) : String := if b then "true" else "false"

def message : Event → String
  | .droppedDependency name => "Dropping unresolved service dependency: " ++ name
  | .deployingTier kind tier switch entities =>
    "Deploying " ++ kind.name ++ " tier '" ++ tier ++ "' on switch " ++ switch ++ " (" ++
      num entities ++ " entities)"
  | .configuring entity ip templateId =>
    "Configuring " ++ entity ++ " (" ++ ip ++ ") with template " ++ templateId
  | .validationFailed entity errors =>
    "Validation failed for " ++ entity ++ ": " ++ Text.quotedList errors
  | .created dryRun rules entity =>
    (if dryRun then "Would create " else "Created ") ++ num rules ++ " rules for " ++ entity
  | .serviceFailure entity tier source =>
    "Service failure deploying " ++ entity ++ " in tier '" ++ tier ++ "': " ++ source.message
  | .skipping entity tier =>
    "Skipping " ++ entity ++ " in tier '" ++ tier ++ "' after service failure"
  | .tierDone tier deployed rejected rules =>
    "Tier '" ++ tier ++ "' done: " ++ num deployed ++ " deployed, " ++ num rejected ++
      " rejected, " ++ num rules ++ " rules"
  | .started runId tiers entities dryRun =>
    "Starting infrastructure deployment " ++ runId ++ " (" ++ num tiers ++ " tiers, " ++
      num entities ++ " entities, dry_run=" ++ truthName dryRun ++ ")"
  | .preflightFailed source => "Template preflight failed: " ++ source.message
  | .aborted runId tier deployed source =>
    "Deployment " ++ runId ++ " aborted in tier '" ++ tier ++ "' after " ++ num deployed ++
      " deployed entities: " ++ source.message
  | .completed runId deployed rejected rules =>
    "Infrastructure deployment " ++ runId ++ " completed: " ++ num deployed ++ " deployed, " ++
      num rejected ++ " rejected, " ++ num rules ++ " rules"
  | .usingService baseUrl => "Using template service at " ++ baseUrl
  | .listed templates => "Listed " ++ num templates ++ " templates"
  | .validated templateId valid => "Validated " ++ templateId ++ ": valid=" ++ truthName valid
  | .instantiated templateId rules dryRun =>
    "Instantiated " ++ templateId ++ " (" ++ num rules ++ " rules, dry_run=" ++
      truthName dryRun ++ ")"
  | .apiAddress baseUrl => "Template API: " ++ baseUrl
  | .loadingTopology path => "Loading topology from " ++ path
  | .usingReference => "No topology given, using the reference topology"
  | .templatesFound templates => num templates ++ " templates found"

end Event

/-- What a call came to. -/
inductive Outturn where
  | listed (result : Except PlatformError (List TemplateDescriptor))
  | judged (result : Except PlatformError Verdict)
  | created (result : Except PlatformError Creation)

/-- One thing that happened during a deployment: a call was made, by its
serial number and for the entity at this position of its tier, a call was
answered, or an event was recorded. -/
inductive Occurrence where
  | called (serial : Nat) (entity : Option Nat) (call : Call)
  | answered (serial : Nat) (entity : Option Nat) (outturn : Outturn)
  | noted (event : Event)

/-- What has happened, the latest first. -/
abbrev History := List Occurrence

/-- An answer, and the events recorded on the way to it. -/
structure Reply (α : Type) where
  result : Except PlatformError α
  notes : List Event

/-- A platform: its answer to every call at every moment. -/
abbrev Platform := (history : History) → (serial : Nat) → (call : Call) → Reply call.Result

end PolicyRollout
