/-!
# ChangeRouting.CommandLine.Help

What the program says about itself and its commands.
-/

namespace ChangeRouting.Help

private def text (lines : List String) : String := "\n".intercalate lines ++ "\n"

/-- The name and the version of the program. -/
def version : String := text ["wolfroute 0.3.0"]

/-- How the program is used. -/
def program : String := text [
  "Change routing and batching engine for multi-node database synchronization",
  "",
  "Usage: wolfroute [OPTIONS] <COMMAND>",
  "",
  "Commands:",
  "  run       Route continuously until interrupted",
  "  route     Run a single routing cycle and print its report",
  "  gaps      Show the gap table",
  "  batches   Summarize outgoing batches per node",
  "  init      Initialize a new configuration file",
  "  validate  Validate configuration file",
  "  info      Show node information",
  "  help      Print this message or the help of the given subcommand(s)",
  "",
  "Options:",
  "  -c, --config <CONFIG>        Path to configuration file [default: wolfroute.toml]",
  "  -l, --log-level <LOG_LEVEL>  Log level (trace, debug, info, warn, error), " ++
    "overrides the config file",
  "  -h, --help                   Print help",
  "  -V, --version                Print version"]

/-- How a command without options of its own is used. -/
private def plain (name about : String) : String := text [
  about,
  "",
  "Usage: wolfroute " ++ name,
  "",
  "Options:",
  "  -h, --help  Print help"]

/-- How a command is used. -/
def command? : String → Option String
  | "run" => some (plain "run" "Route continuously until interrupted")
  | "route" => some (plain "route" "Run a single routing cycle and print its report")
  | "gaps" => some (text [
    "Show the gap table",
    "",
    "Usage: wolfroute gaps [OPTIONS]",
    "",
    "Options:",
    "      --all   Include filled and skipped gaps",
    "  -h, --help  Print help"])
  | "batches" => some (plain "batches" "Summarize outgoing batches per node")
  | "init" => some (text [
    "Initialize a new configuration file",
    "",
    "Usage: wolfroute init [OPTIONS]",
    "",
    "Options:",
    "  -o, --output <OUTPUT>    Output path for configuration file [default: wolfroute.toml]",
    "      --node-id <NODE_ID>  Node ID [default: 00000]",
    "  -h, --help               Print help"])
  | "validate" => some (plain "validate" "Validate configuration file")
  | "info" => some (plain "info" "Show node information")
  | "help" => some (text [
    "Print this message or the help of the given subcommand(s)",
    "",
    "Usage: wolfroute help [COMMAND]...",
    "",
    "Arguments:",
    "  [COMMAND]...  Print help for the subcommand(s)"])
  | _ => none

end ChangeRouting.Help
