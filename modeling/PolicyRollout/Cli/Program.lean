import PolicyRollout.Cli.Filter
import PolicyRollout.Cli.Help
import PolicyRollout.Cli.Templates
/-!
The program: its arguments lead to a command, and the command is a dialogue.
-/
namespace PolicyRollout.Cli

def printPlan (path : Option String) : Dialogue :=
  withTopology path fun topology =>
    .recordAll (topology.droppedDependencies.map .droppedDependency) <|
      .say ((Json.Value.array (topology.plan.map Instantiation.toJson)).prettyText ++ "\n")
        (.stop .success)

/-- The dialogue of a command; `lookup` finds what is set in the environment. -/
def Command.dialogue (lookup : String → Option String) : Command → Dialogue
  | .deploy arguments => deployTopology lookup arguments
  | .templates arguments => showTemplates lookup arguments
  | .plan topology => printPlan topology

def program (lookup : String → Option String) (arguments : List String) : Dialogue :=
  match Invocation.ofArguments lookup arguments with
  | .run command => command.dialogue lookup
  | .help topic => .say topic.text (.stop .success)
  | .version => .say versionText (.stop .success)
  | .misuse error => .stop (.misuse error)

/-- The name under which the filter of events is set. -/
def filterName : String := "RUST_LOG"

/-- The filter of events that is set. -/
def filterOf (lookup : String → Option String) : LogFilter :=
  LogFilter.ofText ((lookup filterName).getD "")

/-- The texts a program puts out, and the events among them that are logged. -/
def Transcript.shown (logged : Event → Bool) (t : Transcript) : String :=
  String.join (t.output.map fun
    | .text text => text
    | .event event => if logged event then logLine event ++ "\n" else "")

end PolicyRollout.Cli
