import SecretFlow.Diagnostic
import SecretFlow.Policy

set_option autoImplicit false
set_option relaxedAutoImplicit false

/-!
What a scan reports.
-/

namespace SecretFlow

def toolName : String := "kubetaint"

def toolVersion : String := "0.1.0"

structure SkippedUnit where
  file : String
  docIndex : Option Nat
  reason : String
  deriving DecidableEq, Repr

structure UnitReport where
  unit : String
  file : String
  kind : String
  name : String
  contentHash : String
  findings : List Finding
  diagnostics : List Diagnostic
  nodeCount : Nat
  edgeCount : Nat
  deriving DecidableEq, Repr

def UnitReport.degraded (u : UnitReport) : Bool :=
  u.diagnostics.any (·.kind.degrades)

structure ScanReport where
  root : String
  units : List UnitReport
  skipped : List SkippedUnit
  cancelled : Nat
  verdict : PolicyVerdict
  deriving DecidableEq, Repr

namespace ScanReport

def findings (r : ScanReport) : List Finding :=
  r.units.flatMap (·.findings)

def diagnostics (r : ScanReport) : List Diagnostic :=
  r.units.flatMap (·.diagnostics)

def degradedUnits (r : ScanReport) : Nat :=
  r.units.countP (·.degraded)

end ScanReport

end SecretFlow
