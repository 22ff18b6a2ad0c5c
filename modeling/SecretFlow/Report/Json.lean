import SecretFlow.Json
import SecretFlow.Report.Basic

set_option autoImplicit false
set_option relaxedAutoImplicit false

/-!
Reports as JSON.
-/

namespace SecretFlow

def Origin.toJson : Origin → JsonValue
  | .manifest file field =>
      .object [("type", .string "manifest"), ("file", .string file), ("field", .string field)]
  | .script name line =>
      .object [("type", .string "script"), ("script", .string name), ("line", .number line)]

private def originOrNull : Option Origin → JsonValue
  | some o => o.toJson
  | none => .null

/-- A finding as an object. Without a destination there is no field for it. -/
def Finding.toJson (f : Finding) : JsonValue :=
  .object ([("unit", .string f.unit), ("path", .ofTexts f.path),
    ("confidence", .string f.confidence.word), ("reason", .string f.reason.word),
    ("secret", .string f.secret), ("exposed_as", .string f.exposedAs),
    ("sink", .ofText? (f.sink.map (·.word)))] ++
    (match f.destination with
      | some host => [("destination", .string host)]
      | none => []) ++
    [("source_location", originOrNull f.sourceLocation), ("location", originOrNull f.location),
      ("message", .string f.message)])

def Diagnostic.toJson (d : Diagnostic) : JsonValue :=
  .object [("kind", .string d.kind.word), ("message", .string d.message),
    ("origin", originOrNull d.origin)]

def UnitReport.toJson (u : UnitReport) : JsonValue :=
  .object [("unit", .string u.unit), ("file", .string u.file), ("kind", .string u.kind),
    ("name", .string u.name), ("content_hash", .string u.contentHash),
    ("findings", .array (u.findings.map Finding.toJson)),
    ("diagnostics", .array (u.diagnostics.map Diagnostic.toJson)),
    ("node_count", .number u.nodeCount), ("edge_count", .number u.edgeCount)]

def SkippedUnit.toJson (s : SkippedUnit) : JsonValue :=
  .object [("file", .string s.file),
    ("doc_index", match s.docIndex with
      | some i => .number i
      | none => .null),
    ("reason", .string s.reason)]

def PolicyVerdict.toJson (v : PolicyVerdict) : JsonValue :=
  .object [("pass", .bool v.pass), ("total_findings", .number v.totalFindings),
    ("effective_findings", .number v.effectiveFindings),
    ("highest_confidence", .ofText? (v.highestConfidence.map (·.word))),
    ("fail_threshold", .string v.failThreshold.word)]

def ScanReport.toJson (r : ScanReport) : JsonValue :=
  .object [("tool", .string toolName), ("version", .string toolVersion), ("root", .string r.root),
    ("units", .array (r.units.map UnitReport.toJson)),
    ("skipped", .array (r.skipped.map SkippedUnit.toJson)),
    ("cancelled", .number r.cancelled), ("verdict", r.verdict.toJson)]

end SecretFlow
