import PolicyRollout.Text.Basic
/-!
What can go wrong when the policy platform is asked: each of these ends a
deployment.  A platform that refuses variables gives an answer and no error.
-/
namespace PolicyRollout

/-- Why the platform gave no answer. -/
inductive PlatformError where
  /-- It could not be reached. -/
  | transport (message : String)
  /-- It refused the credentials. -/
  | authentication (status : Nat) (message : String)
  /-- It does not publish the template. -/
  | unknownTemplate (id : String)
  /-- It answered with another failure status. -/
  | api (status : Nat) (body : String)
  /-- Its answer could not be read. -/
  | decode (message : String)
  /-- It could not even be asked. -/
  | configuration (message : String)
deriving DecidableEq, Repr

namespace PlatformError

def message : PlatformError → String
  | .transport message => "Template service transport error: " ++ message
  | .authentication status message =>
    "Template service rejected credentials (" ++ Text.decimalText status ++ "): " ++ message
  | .unknownTemplate id => "Unknown template: " ++ id
  | .api status body => "Template service returned " ++ Text.decimalText status ++ ": " ++ body
  | .decode message => "Failed to decode template service response: " ++ message
  | .configuration message => "Configuration error: " ++ message

/-- The status the platform answered with, where the error keeps it. -/
def status : PlatformError → Option Nat
  | .authentication status _ => some status
  | .api status _ => some status
  | _ => none

end PlatformError

end PolicyRollout
