import SecretFlow.Finding
import SecretFlow.Graph.Basic
import SecretFlow.Url.Host

set_option autoImplicit false
set_option relaxedAutoImplicit false

/-!
What a path from a secret to a sink says: how much it can be trusted, and the finding that reports
it.
-/

namespace SecretFlow

/-- The confidence in a path of a number of edges to a node: the shorter the higher, but low if the
node could not be inspected. -/
def scorePath (edges : Nat) (last : NodeKind) : Confidence :=
  if last.isUnresolved then .low
  else if edges ≤ 2 then .high
  else if edges ≤ 4 then .medium
  else .low

/-- The reason to report a path to a node with a confidence. -/
def LeakReason.ofPath (last : NodeKind) (confidence : Confidence) : LeakReason :=
  if last.isUnresolved then .unverifiableReference
  else
    match confidence with
    | .high => .directExposure
    | .medium => .indirectExposure
    | .low => .distantExposure

/-- The secret that a node declares, and what it is exposed as. -/
def Payload.exposure : Payload → String × String
  | .secret s _ exposedAs => (s, exposedAs)
  | other => (other.summary, "")

private def leakMessage (secret exposedAs : String) (edges : Nat) (last : Node) : String :=
  match last.kind with
  | .externalSink sink pattern =>
      s!"secret '{secret}' ({exposedAs}) reaches {sink.word} sink '{pattern}' " ++
        s!"in {edges} hop(s): {last.payload.summary}"
  | _ =>
      s!"secret '{secret}' ({exposedAs}) flows into '{last.payload.summary}', " ++
        "which could not be inspected"

/-- The finding of a path in a unit, from its first node to its last. -/
def Finding.ofPath (unit : String) (path : List NodeId) (first last : Node) : Finding :=
  let edges := path.length - 1
  let confidence := scorePath edges last.kind
  let (secret, exposedAs) := first.payload.exposure
  let sink := match last.kind with
    | .externalSink sink _ => some sink
    | _ => none
  { unit
    path
    confidence
    reason := .ofPath last.kind confidence
    secret
    exposedAs
    sink
    destination := if sink = some .network then networkDestination? last.payload.summary else none
    sourceLocation := first.origin
    location := last.origin
    message := leakMessage secret exposedAs edges last }

end SecretFlow
