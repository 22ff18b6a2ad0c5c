import SecretFlow.Graph.Node

set_option autoImplicit false
set_option relaxedAutoImplicit false

/-!
Notes on places where the analysis had to give something up. They never stop it.
-/

namespace SecretFlow

inductive DiagnosticKind where
  | malformedField
  | unresolvedScript
  | depthExceeded
  | cyclicReference
  | unknownSecretKeys
  | insecureIdentifier
  | findingLimit
  | workLimit
  deriving DecidableEq, Repr

namespace DiagnosticKind

def word : DiagnosticKind → String
  | malformedField => "malformed_field"
  | unresolvedScript => "unresolved_script"
  | depthExceeded => "depth_exceeded"
  | cyclicReference => "cyclic_reference"
  | unknownSecretKeys => "unknown_secret_keys"
  | insecureIdentifier => "insecure_identifier"
  | findingLimit => "finding_limit"
  | workLimit => "work_limit"

def ofWord? (w : String) : Option DiagnosticKind :=
  [malformedField, unresolvedScript, depthExceeded, cyclicReference, unknownSecretKeys,
    insecureIdentifier, findingLimit, workLimit].find? (·.word = w)

def degrades : DiagnosticKind → Bool
  | unresolvedScript | depthExceeded | findingLimit | workLimit => true
  | _ => false

end DiagnosticKind

structure Diagnostic where
  kind : DiagnosticKind
  message : String
  origin : Option Origin
  deriving DecidableEq, Repr

end SecretFlow
