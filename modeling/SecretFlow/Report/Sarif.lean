import SecretFlow.Json
import SecretFlow.Report.Basic

set_option autoImplicit false
set_option relaxedAutoImplicit false

/-!
Reports in the Static Analysis Results Interchange Format. The rules of a report are those that
its findings break, in the order of their ids.
-/

namespace SecretFlow

/-- What tells one writing of a report from another: an id and a time. -/
structure RunStamp where
  guid : String
  endTime : String
  deriving DecidableEq, Repr

namespace Sarif

def level : Confidence → String
  | .high => "error"
  | .medium => "warning"
  | .low => "note"

def usualConfidence : LeakReason → Confidence
  | .directExposure => .high
  | .indirectExposure => .medium
  | .distantExposure => .low
  | .unverifiableReference => .low

def reasons (fs : List Finding) : List LeakReason :=
  LeakReason.all.filter fun reason => fs.any fun f => f.reason = reason

def message (text : String) : JsonValue :=
  .sorted [("text", .string text)]

def rule (reason : LeakReason) : JsonValue :=
  .sorted [("id", .string reason.ruleId), ("name", .string reason.word),
    ("shortDescription", message reason.title), ("help", message reason.remediation),
    ("defaultConfiguration", .sorted [("level", .string (level (usualConfidence reason)))])]

private def artifact (uri : String) : String × JsonValue :=
  ("artifactLocation", .sorted [("uri", .string uri)])

private def logical (name : String) : String × JsonValue :=
  ("logicalLocations", .array [.sorted [("fullyQualifiedName", .string name)]])

private def scriptFile? (name : String) : Option String :=
  ("file:".toList.isPrefixOf? name.toList).map fun path =>
    String.ofList (path.dropWhile (· = '/'))

def location : Origin → JsonValue
  | .manifest file field =>
      .sorted [("physicalLocation", .sorted [artifact file]), logical field]
  | .script name line =>
      .sorted (logical s!"{name}:{line}" ::
        match scriptFile? name with
        | some path => [("physicalLocation",
            .sorted [artifact path, ("region", .sorted [("startLine", .number line)])])]
        | none => [])

def result (f : Finding) : JsonValue :=
  let destination := match f.destination with
    | some host => [("destination", JsonValue.string host)]
    | none => []
  let locations := match f.location with
    | some origin => [("locations", JsonValue.array [location origin])]
    | none => []
  .sorted ([("ruleId", .string f.reason.ruleId), ("level", .string (level f.confidence)),
    ("message", message f.message),
    ("properties", .sorted ([("confidence", .string f.confidence.word),
      ("secret", .string f.secret), ("exposedAs", .string f.exposedAs),
      ("unit", .string f.unit), ("path", .ofTexts f.path)] ++ destination))] ++ locations)

def notification (unit : String) (d : Diagnostic) : JsonValue :=
  .sorted [("descriptor", .sorted [("id", .string d.kind.word)]),
    ("level", .string (if d.kind.degrades then "warning" else "note")),
    ("message", message s!"{unit}: {d.message}")]

/-- The tool that made some findings, with the rules that they break. -/
def tool (fs : List Finding) : JsonValue :=
  .sorted [("driver", .sorted [("name", .string toolName),
    ("informationUri", .string "https://github.com/limaronaldo/kubetaint"),
    ("version", .string toolVersion), ("semanticVersion", .string toolVersion),
    ("rules", .array ((reasons fs).map rule))])]

private def invocation (units : List UnitReport) (endTime : String) : JsonValue :=
  .sorted [("executionSuccessful", .bool true), ("endTimeUtc", .string endTime),
    ("toolExecutionNotifications",
      .array (units.flatMap fun u => u.diagnostics.map (notification u.unit)))]

def run (r : ScanReport) (stamp : RunStamp) : JsonValue :=
  .sorted [
    ("tool", tool r.findings),
    ("invocations", .array [invocation r.units stamp.endTime]),
    ("results", .array (r.findings.map result)),
    ("automationDetails", .sorted [("id", .string s!"{toolName}/{r.root}"),
      ("guid", .string stamp.guid)])]

end Sarif

def ScanReport.toSarif (r : ScanReport) (stamp : RunStamp) : JsonValue :=
  .sorted [
    ("$schema", .string ("https://docs.oasis-open.org/sarif/sarif/v2.1.0/errata01/os/schemas/" ++
      "sarif-schema-2.1.0.json")),
    ("version", .string "2.1.0"),
    ("runs", .array [Sarif.run r stamp])]

end SecretFlow
