import PolicyRollout.Cli.Arguments
/-!
Help on the program and its commands.
-/
namespace PolicyRollout.Cli

def programName : String := "policy-deployer"

def versionText : String := programName ++ " 0.1.0\n"

def lines (ls : List String) : String :=
  String.join (ls.map (· ++ "\n"))

/-- The option that names a topology. -/
def topologyHelp : String :=
  "  -t, --topology <TOPOLOGY>        Topology document (YAML or JSON) [env: TOPOLOGY_PATH]"

/-- The option that asks for help. -/
def helpHelp : String :=
  "  -h, --help                       Print help"

def Topic.text : Topic → String
  | .program => lines
    ["Deploy policy templates across an infrastructure topology", "",
      "Usage: " ++ programName ++ " <COMMAND>", "",
      "Commands:",
      "  deploy     Deploy every tier of a topology",
      "  templates  List published templates",
      "  plan       Print every variable set a deployment would send",
      "  help       Print this message or the help of the given subcommand(s)", "",
      "Options:",
      "  -h, --help     Print help",
      "  -V, --version  Print version"]
  | .deploy => lines
    ["Deploy every tier of a topology", "",
      "Usage: " ++ programName ++ " deploy [OPTIONS]", "",
      "Options:",
      topologyHelp,
      "      --dry-run                    Preview rules without creating them",
      "      --concurrency <CONCURRENCY>  Entities of a tier deployed concurrently",
      "      --verify-templates           Fail before deploying if a required template is missing",
      "  -f, --format <FORMAT>            " ++
        "Report format [default: text] [possible values: text, json]",
      helpHelp]
  | .templates => lines
    ["List published templates", "",
      "Usage: " ++ programName ++ " templates [OPTIONS]", "",
      "Options:",
      "      --category <CATEGORY>",
      "      --tag <TAGS>",
      "      --id <ID>              Show a single template",
      "  -h, --help                 Print help"]
  | .plan => lines
    ["Print every variable set a deployment would send", "",
      "Usage: " ++ programName ++ " plan [OPTIONS]", "",
      "Options:",
      topologyHelp,
      helpHelp]
  | .help => lines
    ["Print this message or the help of the given subcommand(s)", "",
      "Usage: " ++ programName ++ " help [COMMAND]"]

end PolicyRollout.Cli
