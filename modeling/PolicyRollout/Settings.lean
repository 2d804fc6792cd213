import PolicyRollout.Deployment.Options
import PolicyRollout.Number.Basic
import PolicyRollout.Text.Basic
/-!
Settings from named values such as those of an environment.  Absent values
have defaults, all but the token.  Numbers and truth values may have blanks
around them.
-/
namespace PolicyRollout

/-- The names under which settings are looked up. -/
inductive SettingKey where
  | apiUrl
  | apiToken
  | apiTimeout
  | dryRun
  | entityConcurrency
  | verifyTemplates
  | topologyPath
deriving DecidableEq, Repr

def SettingKey.name : SettingKey → String
  | .apiUrl => "TEMPLATE_API_URL"
  | .apiToken => "TEMPLATE_API_TOKEN"
  | .apiTimeout => "TEMPLATE_API_TIMEOUT_SECS"
  | .dryRun => "DEPLOY_DRY_RUN"
  | .entityConcurrency => "DEPLOY_ENTITY_CONCURRENCY"
  | .verifyTemplates => "DEPLOY_VERIFY_TEMPLATES"
  | .topologyPath => "TOPOLOGY_PATH"

def SettingKey.all : List SettingKey :=
  [.apiUrl, .apiToken, .apiTimeout, .dryRun, .entityConcurrency, .verifyTemplates, .topologyPath]

/-- Why there are no settings. -/
inductive SettingsError where
  | missing (key : SettingKey)
  | invalid (key : SettingKey) (value : String)
deriving DecidableEq, Repr

def SettingsError.message : SettingsError → String
  | .missing key => key.name ++ " not set"
  | .invalid key value => "Invalid value for " ++ key.name ++ ": " ++ value

structure Settings where
  service : ServiceSettings
  options : DeploymentOptions
  /-- The topology to use in place of the reference topology. -/
  topologyPath : Option String
deriving DecidableEq, Repr

namespace Settings

/-- The URL of the platform, unless set otherwise. -/
def defaultUrl : String := "http://localhost:8080"

def natural64? (cs : List Char) : Option Nat :=
  Text.unsigned? maxNatural64 cs

def truth? (cs : List Char) : Option Bool :=
  if cs = "true".toList then some true
  else if cs = "false".toList then some false
  else none

/-- The value of a setting, or its default when it is absent. -/
def valueOr {α : Type} (lookup : String → Option String) (parse? : List Char → Option α)
    (key : SettingKey) (default : α) : Except SettingsError α :=
  match lookup key.name with
  | none => .ok default
  | some text => match parse? (Text.trimChars text.toList) with
    | some v => .ok v
    | none => .error (.invalid key text)

/-- Settings from a look-up of names. -/
def ofLookup (lookup : String → Option String) : Except SettingsError Settings := do
  let baseUrl := (lookup SettingKey.apiUrl.name).getD defaultUrl
  match (lookup SettingKey.apiToken.name).filter (· ≠ "") with
  | none => .error (.missing .apiToken)
  | some apiToken =>
    let timeout ← valueOr lookup natural64? .apiTimeout ServiceSettings.defaultTimeout
    let dryRun ← valueOr lookup truth? .dryRun false
    let concurrency ← valueOr lookup natural64? .entityConcurrency 1
    let verify ← valueOr lookup truth? .verifyTemplates false
    if concurrency = 0 then .error (.invalid .entityConcurrency "0")
    else return ⟨⟨baseUrl, apiToken, timeout⟩, ⟨dryRun, concurrency, verify⟩,
      lookup SettingKey.topologyPath.name⟩

end Settings

end PolicyRollout
