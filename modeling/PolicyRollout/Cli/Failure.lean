import PolicyRollout.Deployment.Report
import PolicyRollout.Settings
import PolicyRollout.Text.Basic
import PolicyRollout.Topology.Load
/-!
Why the program fails, and how that is told: what could not be done, and then
what caused it, each cause after what it caused.
-/
namespace PolicyRollout

def Violation.causes : Violation → List String
  | .invalidAddress _ _ _ source => [source.message]
  | _ => []

def TopologyError.causes : TopologyError → List String
  | .unreadable _ fault => [fault.message]
  | .undecodable .. => []
  | .invalid violation => violation.message :: violation.causes

namespace Cli

/-- Why the program fails. -/
inductive Failure where
  | settings (source : SettingsError)
  | noConcurrency
  | topology (path : String) (source : TopologyError)
  | client (source : PlatformError)
  | platform (source : PlatformError)
  | deployment (source : DeploymentError)
deriving DecidableEq, Repr

namespace Failure

def message : Failure → String
  | .settings _ => "Failed to load configuration"
  | .noConcurrency => "--concurrency must be at least 1"
  | .topology path _ => "Failed to load topology " ++ path
  | .client _ => "Failed to create template client"
  | .platform source => source.message
  | .deployment source => source.message

def causes : Failure → List String
  | .settings source => [source.message]
  | .noConcurrency => []
  | .topology _ source => source.message :: source.causes
  | .client source => [source.message]
  | .platform _ => []
  | .deployment source => [source.source.message]

/-- A text with something put before its first line and something before each other line. -/
def indent (first others : String) (text : String) : String :=
  first ++ ("\n" ++ others).intercalate (text.splitOn "\n")

/-- The causes, one below the other; several of them are numbered. -/
def causeLines : (causes : List String) → List String
  | [] => []
  | [cause] => [indent "    " "    " cause]
  | causes => causes.zipIdx.map fun (cause, number) =>
    indent (Text.padLeft 5 (Text.decimalText number) ++ ": ") "       " cause

def text (f : Failure) : String :=
  let told := "Error: " ++ f.message ++ "\n"
  match causeLines f.causes with
  | [] => told
  | lines => told ++ "\nCaused by:\n" ++ "\n".intercalate lines ++ "\n"

end Failure

end Cli

end PolicyRollout
