import SecretFlow.Command.Request
import SecretFlow.Report.Basic
import SecretFlow.Text.Quoted

set_option autoImplicit false
set_option relaxedAutoImplicit false

/-!
Help on the command line.
-/

namespace SecretFlow.Command

def Topic.summary : Topic → String
  | .scan => "Scan manifests for secrets that reach logs, stdout or the network"
  | .graph => "Print the taint graph of every manifest unit"
  | .checkIdentifier => "Check user names against the identifier heuristics"
  | .listSinks => "List the sink patterns in effect"
  | .init => "Generate a starter .kubetaint.toml config file"

/-- Lines of two columns; the second one starts two blanks after the widest entry of the first. -/
private def columns (rows : List (String × String)) : String :=
  let width := (rows.map (·.1.length)).foldl max 0
  String.join (rows.map fun (name, text) => s!"  {Text.padEnd width name}  {text}\n")

private def verboseRow : String × String :=
  ("-v, --verbose", "Debug logging (overridden by KUBETAINT_LOG)")

private def helpRow : String × String := ("-h, --help", "Print help")

private def configRow : String × String := ("-c, --config <CONFIG>", "Config file path")

private def pathText : String := "Manifest file or directory"

private def Topic.rows : Topic → String × List (String × String) × List (String × String)
  | .scan => ("[OPTIONS] [PATH]", [("[PATH]", pathText ++ " [default: .]")],
      [configRow, verboseRow,
        ("-f, --format <FORMAT>", "Output format (console, json, sarif) [default: console]"),
        ("    --fail-on <FAIL_ON>", "Minimum confidence to fail (low, medium, high)"),
        ("-o, --output <OUTPUT>", "Write output to file instead of stdout"), helpRow])
  | .graph => ("[OPTIONS] <PATH>", [("<PATH>", pathText)],
      [configRow, verboseRow,
        ("-f, --format <FORMAT>", "Graph format (dot, mermaid) [default: dot]"), helpRow])
  | .checkIdentifier => ("[OPTIONS] <VALUES>...", [("<VALUES>...", "Values to check")],
      [("-c, --config <CONFIG>", "Config file path (for [identifiers] bounds)"), verboseRow,
        helpRow])
  | .listSinks => ("[OPTIONS]", [],
      [configRow, verboseRow,
        ("-f, --format <FORMAT>", "Output format (table, json) [default: table]"), helpRow])
  | .init => ("[OPTIONS]", [],
      [("    --force", "Overwrite existing config file"), verboseRow, helpRow])

def Topic.help (topic : Topic) : String :=
  let (words, arguments, options) := topic.rows
  topic.summary ++ s!"\n\nUsage: {toolName} {topic.word} {words}\n\n" ++
    (if arguments.isEmpty then "" else "Arguments:\n" ++ columns arguments ++ "\n") ++
    "Options:\n" ++ columns options

def help : String :=
  "Static secret-leak detector for Kubernetes manifests\n\n" ++
    s!"Usage: {toolName} [OPTIONS] <COMMAND>\n\nCommands:\n" ++
    columns (Topic.all.map (fun topic => (topic.word, topic.summary)) ++
      [("help", "Print this message or the help of the given subcommand(s)")]) ++
    "\nOptions:\n" ++ columns [verboseRow, helpRow, ("-V, --version", "Print version")]

end SecretFlow.Command
