import SecretFlow.Manifest.Workload
import SecretFlow.Text.Table

set_option autoImplicit false
set_option relaxedAutoImplicit false

/-!
Manifests: the documents that describe objects of a cluster.
-/

namespace SecretFlow

/-- A field that is there but cannot be used, and why. It is left out. -/
structure FieldIssue where
  field : String
  message : String
  deriving DecidableEq, Repr

/-- The part of an object that matters to the flow of secrets. Of a secret only the names of its
keys are kept. -/
inductive ResourceBody where
  | workload (pod : PodSpec)
  | configMap (data : Text.Table String)
  | secret (keys : List String)
  | other
  deriving DecidableEq, Repr

structure Manifest where
  file : String
  docIndex : Nat
  apiVersion : String
  kind : String
  name : String
  nameSpace : Option String
  contentHash : String
  body : ResourceBody
  issues : List FieldIssue
  deriving DecidableEq, Repr

namespace Manifest

def unitId (m : Manifest) : String :=
  s!"{m.file}#{m.docIndex}/{m.kind}/{m.name}"

def pod? (m : Manifest) : Option PodSpec :=
  match m.body with
  | .workload pod => some pod
  | _ => none

end Manifest

end SecretFlow
