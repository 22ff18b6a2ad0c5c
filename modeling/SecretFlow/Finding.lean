import SecretFlow.Graph.Node

set_option autoImplicit false
set_option relaxedAutoImplicit false

/-!
Findings: leak paths with the confidence that they matter.
-/

namespace SecretFlow

inductive Confidence where
  | low
  | medium
  | high
  deriving DecidableEq, Repr

namespace Confidence

def rank : Confidence → Nat
  | low => 0
  | medium => 1
  | high => 2

def word : Confidence → String
  | low => "low"
  | medium => "medium"
  | high => "high"

def ofWord? (w : String) : Option Confidence :=
  [low, medium, high].find? (·.word = w)

def ofInformal? (w : String) : Option Confidence :=
  match Text.lowerWord w with
  | "low" => some low
  | "medium" | "med" => some medium
  | "high" => some high
  | _ => none

end Confidence

inductive LeakReason where
  | directExposure
  | indirectExposure
  | distantExposure
  | unverifiableReference
  deriving DecidableEq, Repr

namespace LeakReason

def all : List LeakReason :=
  [directExposure, indirectExposure, distantExposure, unverifiableReference]

def word : LeakReason → String
  | directExposure => "direct_exposure"
  | indirectExposure => "indirect_exposure"
  | distantExposure => "distant_exposure"
  | unverifiableReference => "unverifiable_reference"

def ofWord? (w : String) : Option LeakReason :=
  all.find? (·.word = w)

def ruleId : LeakReason → String
  | directExposure => "KT-001"
  | indirectExposure => "KT-002"
  | distantExposure => "KT-003"
  | unverifiableReference => "KT-004"

def title : LeakReason → String
  | directExposure => "Secret directly exposed"
  | indirectExposure => "Secret exposed through references"
  | distantExposure => "Secret exposed through a long reference chain"
  | unverifiableReference => "Secret passed to an unresolved reference"

def remediation : LeakReason → String
  | unverifiableReference =>
      "Make the referenced script available to the scan (ConfigMap in the batch " ++
        "or a file next to the manifest) so the flow can be verified."
  | _ =>
      "Do not print, log or transmit secret values. Pass secrets to tools through " ++
        "files or stdin instead of echoing them, and disable shell tracing."

end LeakReason

/-- A path from a secret declaration to a sink or to a script that could not be inspected. -/
structure Finding where
  unit : String
  path : List NodeId
  confidence : Confidence
  reason : LeakReason
  secret : String
  exposedAs : String
  sink : Option SinkKind
  destination : Option String
  sourceLocation : Option Origin
  location : Option Origin
  message : String
  deriving DecidableEq, Repr

def Finding.edgeCount (f : Finding) : Nat :=
  f.path.length - 1

end SecretFlow
