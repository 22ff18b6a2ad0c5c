import SecretFlow.Command.Help
import SecretFlow.Config.Starter
import SecretFlow.Graph.Drawing
import SecretFlow.Report.Format
import SecretFlow.Scan

set_option autoImplicit false
set_option relaxedAutoImplicit false

/-!
What the commands do, as a function of the files and the arguments.
-/

namespace SecretFlow.Command

/-- What a command leaves behind: an exit code, what it says, and a file that it writes. -/
structure Outcome where
  exit : Nat := 0
  out : String := ""
  err : String := ""
  written : Option (String × String) := none
  deriving DecidableEq, Repr

namespace Outcome

def ofFailure (e : Failure) : Outcome :=
  { exit := 2, err := s!"Error: {e.message}\n" }

def ofResult : Except Failure Outcome → Outcome
  | .ok o => o
  | .error e => ofFailure e

def warn (text : String) (o : Outcome) : Outcome :=
  { o with err := text ++ o.err }

end Outcome

/-- Write a text to a file, if the file can be written. -/
def writeText (files : FileTree) (path text : String) (o : Outcome) : Except Failure Outcome :=
  match files.write path (Text.Utf8.encode text) with
  | .ok _ => .ok { o with written := some (path, text) }
  | .error e => .error (.io e.message)

/-- Scan and write the report. The exit code is 1 if the scan fails. -/
def runScan (files : FileTree) (stamp : RunStamp) (path : String) (config : Option String)
    (format : ReportFormat) (failOn : Option Confidence) (output : Option String) :
    Except Failure Outcome := do
  let report ← SecretFlow.scan files path { configPath := config, failOn := failOn }
  let text := report.text stamp format
  let exit := if report.verdict.pass then 0 else 1
  match output with
  | some file => writeText files file text { exit := exit }
  | none => return { exit := exit, out := text }

/-- The format of a report, and a warning if its name is unknown. -/
def chooseFormat (name : String) : ReportFormat × String :=
  match ReportFormat.ofInformal? name with
  | some f => (f, "")
  | none => (.console, s!"Warning: unknown format '{name}', using console\n")

/-- The confidence that fails a scan, and a warning if its name is unknown. -/
def chooseConfidence : Option String → Option Confidence × String
  | none => (none, "")
  | some name =>
      match Confidence.ofInformal? name with
      | some c => (some c, "")
      | none => (none, s!"Warning: unknown confidence '{name}', using config default\n")

def runGraph (files : FileTree) (path : String) (config : Option String) (format : String) :
    Except Failure Outcome := do
  let draw : Graph → String ← match format with
    | "dot" => .ok Graph.toDot
    | "mermaid" => .ok Graph.toMermaid
    | other => .error (.output s!"unknown graph format '{other}' (expected dot or mermaid)")
  let graphs ← flowGraphs files path (← configFor files path config)
  return { out := String.join (graphs.map fun g => s!"// {g.unit}\n{draw g}\n") }

/-- Check names. The exit code is 1 if one of them is not in order. -/
def runCheck (files : FileTree) (values : List String) (config : Option String) :
    Except Failure Outcome := do
  let settings ← configFor files "." config
  let verdicts := values.map fun v => (settings.identifiers.check v, v)
  return {
    exit := if verdicts.all (·.1 = .ok) then 0 else 1
    out := String.join (verdicts.map fun (verdict, v) =>
      s!"{Text.padEnd 12 verdict.text} {Text.quoted v}\n") }

private def sinkRow (name kind regex : String) : String :=
  s!"{Text.padEnd 20 name} {Text.padEnd 8 kind} {regex}\n"

private def sinkObject (p : SinkPattern) : JsonValue :=
  .object [("name", .string p.name), ("kind", .string p.kind.word), ("regex", .string p.regex)]

def runList (files : FileTree) (config : Option String) (format : String) :
    Except Failure Outcome := do
  let settings ← configFor files "." config
  let patterns := settings.sinks.effective
  match SinkRule.ofPatterns patterns with
  | .error e => .error (.sinkPattern e)
  | .ok _ =>
      if format = "json" then
        return { out := (JsonValue.array (patterns.map sinkObject)).text ++ "\n" }
      else
        return {
          out := sinkRow "NAME" "KIND" "REGEX" ++
            String.ofList (List.replicate 72 '-') ++ "\n" ++
            String.join (patterns.map fun p => sinkRow p.name p.kind.word p.regex) }

def runInit (files : FileTree) (force : Bool) : Except Failure Outcome :=
  if files.holds Config.fileName && !force then
    .ok {
      exit := 1
      err := s!"{Config.fileName} already exists. Use --force to overwrite.\n" }
  else
    writeText files Config.fileName Config.starterText
      { out := s!"Created {Config.fileName}\n" }

def Job.run (files : FileTree) (stamp : RunStamp) : Job → Outcome
  | scan path config format failOn output =>
      let (chosenFormat, formatWarning) := chooseFormat format
      let (confidence, confidenceWarning) := chooseConfidence failOn
      (Outcome.ofResult
        (runScan files stamp path config chosenFormat confidence output)).warn
          (formatWarning ++ confidenceWarning)
  | graph path config format => .ofResult (runGraph files path config format)
  | checkIdentifier values config => .ofResult (runCheck files values config)
  | listSinks config format => .ofResult (runList files config format)
  | init force => .ofResult (runInit files force)

def Request.perform (files : FileTree) (stamp : RunStamp) : Request → Outcome
  | run job => job.run files stamp
  | help none => { out := Command.help }
  | help (some topic) => { out := topic.help }
  | version => { out := s!"{toolName} {toolVersion}\n" }
  | rejected fault =>
      { exit := 2
        err := s!"error: {fault.message}\n\nFor more information, try '--help'.\n" }

end SecretFlow.Command
