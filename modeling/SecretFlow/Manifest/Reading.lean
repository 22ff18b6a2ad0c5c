import SecretFlow.Manifest.Basic
import SecretFlow.Yaml.Value

set_option autoImplicit false
set_option relaxedAutoImplicit false

/-!
Reading manifests from YAML values. Whether a value describes an object is decided by a few
required fields; all others are read as far as possible, and what cannot be used is noted.
-/

namespace SecretFlow.Manifest

open SecretFlow.Yaml (Value)

inductive ShapeFault where
  | notMapping
  | noApiVersion
  | noKind
  | noMetadata
  | noName
  deriving DecidableEq, Repr

def ShapeFault.message : ShapeFault → String
  | notMapping => "document is not a mapping"
  | noApiVersion => "missing or non-string 'apiVersion'"
  | noKind => "missing or non-string 'kind'"
  | noMetadata => "missing 'metadata' mapping"
  | noName => "missing or non-string 'metadata.name'"

/-- The first fault of a document that does not describe an object. -/
def shapeFault? (doc : Value) : Option ShapeFault :=
  if doc.entries?.isNone then some .notMapping
  else if (doc.textAt? "apiVersion").isNone then some .noApiVersion
  else if (doc.textAt? "kind").isNone then some .noKind
  else
    match doc.get? "metadata" with
    | none => some .noMetadata
    | some metadata =>
        if metadata.entries?.isNone then some .noMetadata
        else if (metadata.textAt? "name").isNone then some .noName
        else none

/-- A result with the issues that were met on the way to it. -/
structure Noted (α : Type) where
  value : α
  issues : List FieldIssue := []

namespace Noted

instance : Monad Noted where
  pure a := ⟨a, []⟩
  bind x f :=
    let y := f x.value
    ⟨y.value, x.issues ++ y.issues⟩

def issue (field message : String) : Noted Unit :=
  ⟨(), [⟨field, message⟩]⟩

end Noted

/-- The items of a list; an absent or null field has none. -/
def listItems (field : String) : Option Value → Noted (List Value)
  | none | some .null => pure []
  | some (.sequence items) => pure items
  | some _ => do
      Noted.issue field "expected a list"
      return []

/-- Read the items of a list one by one, each with its field; those that cannot be used are left
out. -/
def readEach {α : Type} (read : String → Value → Noted (Option α)) (field : String)
    (value : Option Value) : Noted (List α) := do
  let items ← listItems field value
  let found ← items.zipIdx.mapM fun (item, i) => read s!"{field}[{i}]" item
  return found.filterMap id

def readScalar (field : String) (item : Value) : Noted (Option String) := do
  match item.scalarText? with
  | some s => return some s
  | none =>
      Noted.issue field "expected a scalar"
      return none

def readEnvSource (field : String) (entry : Value) : Noted EnvSource := do
  match entry.get? "value" with
  | some value =>
      match value.scalarText? with
      | some s => return .literal s
      | none =>
          Noted.issue s!"{field}.value" "env value is not a scalar"
          return .empty
  | none =>
      match entry.get? "valueFrom" with
      | none => return .empty
      | some from_ =>
          match from_.get? "secretKeyRef" with
          | some ref =>
              match ref.textAt? "name", ref.textAt? "key" with
              | some secret, some key => return .secretKey secret key
              | _, _ =>
                  Noted.issue s!"{field}.valueFrom.secretKeyRef"
                    "secretKeyRef needs both 'name' and 'key'"
                  return .empty
          | none =>
              let ref? := from_.get? "configMapKeyRef"
              match ref?.bind (·.textAt? "name"), ref?.bind (·.textAt? "key") with
              | some configMap, some key => return .configMapKey configMap key
              | _, _ =>
                  if (from_.get? "fieldRef").isSome || (from_.get? "resourceFieldRef").isSome then
                    return .downward
                  else return .empty

def readEnv (field : String) (entry : Value) : Noted (Option EnvVariable) := do
  match entry.textAt? "name" with
  | none =>
      Noted.issue field "env entry without a name"
      return none
  | some name => return some ⟨name, ← readEnvSource field entry, field⟩

/-- An object whose keys are imported, if it is named. -/
def readEnvImport (field : String) (entry : Value) : Noted (Option EnvImport) := do
  let start := (entry.textAt? "prefix").getD ""
  let secret? := (entry.get? "secretRef").bind (·.textAt? "name")
  let configMap? := (entry.get? "configMapRef").bind (·.textAt? "name")
  match secret?, configMap? with
  | some name, _ => return some ⟨.secret name, start, field⟩
  | none, some name => return some ⟨.configMap name, start, field⟩
  | none, none =>
      Noted.issue field "envFrom entry without a named secretRef or configMapRef"
      return none

def readMount (field : String) (entry : Value) : Noted (Option VolumeMount) := do
  match entry.textAt? "name", entry.textAt? "mountPath" with
  | some name, some mountPath => return some ⟨name, mountPath, entry.textAt? "subPath", field⟩
  | _, _ =>
      Noted.issue field "volumeMount needs both 'name' and 'mountPath'"
      return none

def readContainer (field : String) (item : Value) : Noted (Option Container) := do
  match item.textAt? "name" with
  | none =>
      Noted.issue field "container without a name"
      return none
  | some name =>
      let command ← readEach readScalar s!"{field}.command" (item.get? "command")
      let args ← readEach readScalar s!"{field}.args" (item.get? "args")
      let env ← readEach readEnv s!"{field}.env" (item.get? "env")
      let envFrom ← readEach readEnvImport s!"{field}.envFrom" (item.get? "envFrom")
      let mounts ← readEach readMount s!"{field}.volumeMounts" (item.get? "volumeMounts")
      return some ⟨name, field, command, args, env, envFrom, mounts⟩

private def keyPaths (source : Value) : List KeyPath :=
  let items := ((source.get? "items").bind (·.items?)).getD []
  items.filterMap fun item => do
    return ⟨← item.textAt? "key", ← item.textAt? "path"⟩

def readVolumeSource (field : String) (item : Value) : Noted VolumeSource := do
  match item.get? "secret", item.get? "configMap" with
  | some secret, _ =>
      match secret.textAt? "secretName" with
      | some name => return .secret name (keyPaths secret)
      | none =>
          Noted.issue s!"{field}.secret" "secret volume without 'secretName'"
          return .other
  | none, some configMap =>
      match configMap.textAt? "name" with
      | some name => return .configMap name (keyPaths configMap)
      | none => return .other
  | none, none => return .other

def readVolume (field : String) (item : Value) : Noted (Option Volume) := do
  match item.textAt? "name" with
  | none =>
      Noted.issue field "volume without a name"
      return none
  | some name => return some ⟨name, ← readVolumeSource field item, field⟩

def readPod (field : String) (spec : Option Value) : Noted ResourceBody := do
  match spec with
  | none =>
      Noted.issue field "workload without a pod spec"
      return .workload { field }
  | some spec =>
      let initial ← readEach readContainer s!"{field}.initContainers" (spec.get? "initContainers")
      let regular ← readEach readContainer s!"{field}.containers" (spec.get? "containers")
      let volumes ← readEach readVolume s!"{field}.volumes" (spec.get? "volumes")
      return .workload ⟨field, initial ++ regular, volumes⟩

private def readData (field : String) (data : Option Value) : Noted (Text.Table String) := do
  let entries := (data.bind (·.entries?)).getD []
  let read ← entries.mapM fun (k, v) => do
    match k.scalarText?, v.scalarText? with
    | some k, some v => return some (k, v)
    | _, _ =>
        Noted.issue field "non-scalar entry in data"
        return none
  return Text.Table.ofEntries (read.filterMap id)

def secretKeys (doc : Value) : List String :=
  Text.sortedNames (["data", "stringData"].flatMap fun part =>
    (((doc.get? part).bind (·.entries?)).getD []).filterMap (·.1.scalarText?))

def podFields? (kind : String) : Option (List String) :=
  if kind = "Pod" then some ["spec"]
  else if ["Deployment", "StatefulSet", "DaemonSet", "ReplicaSet", "ReplicationController",
      "Job"].contains kind then some ["spec", "template", "spec"]
  else if kind = "CronJob" then some ["spec", "jobTemplate", "spec", "template", "spec"]
  else none

def readBody (kind : String) (doc : Value) : Noted ResourceBody := do
  match podFields? kind with
  | some fields => readPod (".".intercalate fields) (doc.at? fields)
  | none =>
      if kind = "ConfigMap" then return .configMap (← readData "data" (doc.get? "data"))
      else if kind = "Secret" then return .secret (secretKeys doc)
      else return .other

/-- The manifest that a document describes; fields of the wrong shape are left out and noted. -/
def ofDocument (doc : Value) (file : String) (docIndex : Nat) (contentHash : String) : Manifest :=
  let kind := (doc.textAt? "kind").getD ""
  let metadata := doc.get? "metadata"
  let body := readBody kind doc
  { file
    docIndex
    apiVersion := (doc.textAt? "apiVersion").getD ""
    kind
    name := (metadata.bind (·.textAt? "name")).getD ""
    nameSpace := metadata.bind (·.textAt? "namespace")
    contentHash
    body := body.value
    issues := body.issues }

end SecretFlow.Manifest
