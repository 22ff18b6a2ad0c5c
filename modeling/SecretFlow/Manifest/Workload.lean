set_option autoImplicit false
set_option relaxedAutoImplicit false

/-!
The parts of a pod specification that secrets pass through. Each part knows the path of its
field inside the document.
-/

namespace SecretFlow

inductive EnvSource where
  | literal (value : String)
  | secretKey (secret key : String)
  | configMapKey (configMap key : String)
  /-- Metadata of the running pod, which is never secret. -/
  | downward
  | empty
  deriving DecidableEq, Repr

structure EnvVariable where
  name : String
  source : EnvSource
  field : String
  deriving DecidableEq, Repr

/-- An object whose keys all become variables. -/
inductive EnvImportSource where
  | secret (name : String)
  | configMap (name : String)
  deriving DecidableEq, Repr

/-- Variables taken from all keys of an object; their names start with a given text. -/
structure EnvImport where
  source : EnvImportSource
  start : String
  field : String
  deriving DecidableEq, Repr

structure KeyPath where
  key : String
  path : String
  deriving DecidableEq, Repr

inductive VolumeSource where
  | secret (secret : String) (items : List KeyPath)
  | configMap (name : String) (items : List KeyPath)
  | other
  deriving DecidableEq, Repr

structure Volume where
  name : String
  source : VolumeSource
  field : String
  deriving DecidableEq, Repr

/-- A volume in the file system of a container, as a whole or only one path of it. -/
structure VolumeMount where
  name : String
  mountPath : String
  subPath : Option String
  field : String
  deriving DecidableEq, Repr

structure Container where
  name : String
  field : String
  command : List String
  args : List String
  env : List EnvVariable
  envFrom : List EnvImport
  mounts : List VolumeMount
  deriving DecidableEq, Repr

namespace Container

/-- The words that the container runs: the command and then the arguments. -/
def argv (c : Container) : List String :=
  c.command ++ c.args

def argvField (c : Container) (index : Nat) : String :=
  if index < c.command.length then s!"{c.field}.command[{index}]"
  else s!"{c.field}.args[{index - c.command.length}]"

end Container

/-- A pod: its containers, initial ones first, and its volumes. -/
structure PodSpec where
  field : String
  containers : List Container := []
  volumes : List Volume := []
  deriving DecidableEq, Repr

end SecretFlow
