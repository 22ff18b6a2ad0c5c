import SecretFlow.Report.Basic

set_option autoImplicit false
set_option relaxedAutoImplicit false

/-!
Reports to read in a terminal: findings from the most to the least certain, then diagnostics,
then what was skipped, and the verdict.
-/

namespace SecretFlow

namespace Console

def tag : Confidence → String
  | .high => "[HIGH]  "
  | .medium => "[MEDIUM]"
  | .low => "[LOW]   "

/-- More certain findings come first, those of one confidence in the order of their units. -/
def comesBefore (a b : Finding) : Bool :=
  b.confidence.rank < a.confidence.rank ||
    (a.confidence = b.confidence && a.unit ≤ b.unit)

private def detail (text : String) : String :=
  "           " ++ text ++ "\n"

def finding (f : Finding) : String :=
  let place := match f.location with
    | some origin => origin.text
    | none => f.unit
  s!"  {tag f.confidence} {f.reason.ruleId} {f.message}\n" ++
    detail s!"at {place}" ++
    (match f.sourceLocation with
      | some origin => detail s!"from {origin.text}"
      | none => "") ++
    (match f.destination with
      | some host => detail s!"to {host}"
      | none => "") ++
    detail ("path " ++ " -> ".intercalate f.path) ++
    detail s!"fix: {f.reason.remediation}" ++ "\n"

private def findingsPart (fs : List Finding) : String :=
  if fs.isEmpty then "\n  No secret leaks detected.\n\n"
  else
    s!"\n  {fs.length} finding(s) detected:\n\n" ++
      String.join ((fs.mergeSort comesBefore).map finding)

private def unitNotes (u : UnitReport) : String :=
  let mark := if u.degraded then " (degraded)" else ""
  s!"    {u.unit}{mark}\n" ++
    String.join (u.diagnostics.map fun d => s!"      [{d.kind.word}] {d.message}\n")

private def diagnosticsPart (units : List UnitReport) : String :=
  let noted := units.filter fun u => !u.diagnostics.isEmpty
  if noted.isEmpty then "" else "  Diagnostics:\n" ++ String.join (noted.map unitNotes) ++ "\n"

private def skippedPart (skipped : List SkippedUnit) : String :=
  if skipped.isEmpty then ""
  else "  Skipped:\n" ++ String.join (skipped.map fun s => s!"    {s.reason}\n") ++ "\n"

private def headline (r : ScanReport) : String :=
  s!"\n  {r.units.length} unit(s) scanned under {r.root}" ++
    (if r.skipped.isEmpty then "" else s!", {r.skipped.length} skipped") ++
    (if r.cancelled = 0 then "" else s!", {r.cancelled} cancelled") ++ "\n"

private def verdictPart (v : PolicyVerdict) : String :=
  let status := if v.pass then "PASS" else "FAIL"
  let highest := match v.highestConfidence with
    | some c => c.word
    | none => "none"
  s!"  Result: {status} (threshold: {v.failThreshold.word}, highest: {highest})\n\n"

end Console

def ScanReport.toConsole (r : ScanReport) : String :=
  Console.headline r ++ Console.findingsPart r.findings ++ Console.diagnosticsPart r.units ++
    Console.skippedPart r.skipped ++ Console.verdictPart r.verdict

end SecretFlow
