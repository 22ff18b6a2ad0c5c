import SecretFlow.Report.Console
import SecretFlow.Report.Json
import SecretFlow.Report.Sarif
import SecretFlow.Text.Search

set_option autoImplicit false
set_option relaxedAutoImplicit false

/-!
Formats in which a report is written, and its text in each.
-/

namespace SecretFlow

inductive ReportFormat where
  | console
  | json
  | sarif
  deriving DecidableEq, Repr

namespace ReportFormat

def word : ReportFormat → String
  | console => "console"
  | json => "json"
  | sarif => "sarif"

def ofInformal? (w : String) : Option ReportFormat :=
  match Text.lowerWord w with
  | "console" | "text" => some console
  | "json" => some json
  | "sarif" => some sarif
  | _ => none

end ReportFormat

def ScanReport.text (r : ScanReport) (stamp : RunStamp) : ReportFormat → String
  | .console => r.toConsole
  | .json => r.toJson.text
  | .sarif => (r.toSarif stamp).text

end SecretFlow
