import SecretFlow.Manifest.Basic

set_option autoImplicit false
set_option relaxedAutoImplicit false

/-!
What the manifests at hand declare: the data of config maps and the names of secrets' keys.
Objects are known by name alone, and of two with one name the first counts.
-/

namespace SecretFlow

structure Cluster where
  configMaps : List (String × Text.Table String) := []
  secrets : List (String × List String) := []
  deriving DecidableEq, Repr

namespace Cluster

def insertConfigMap (c : Cluster) (name : String) (data : Text.Table String) : Cluster :=
  { c with configMaps := (name, data) :: c.configMaps }

/-- Put the keys of a secret, in place of one with its name. -/
def insertSecret (c : Cluster) (name : String) (keys : List String) : Cluster :=
  { c with secrets := (name, keys) :: c.secrets }

def configMap? (c : Cluster) (name : String) : Option (Text.Table String) :=
  (c.configMaps.find? (·.1 = name)).map (·.2)

def secretKeys? (c : Cluster) (name : String) : Option (List String) :=
  (c.secrets.find? (·.1 = name)).map (·.2)

def entry? (c : Cluster) (name key : String) : Option String :=
  (c.configMap? name).bind (·.get? key)

def configMapKeys? (c : Cluster) (name : String) : Option (List String) :=
  (c.configMap? name).map (·.names)

/-- Add what a manifest declares, unless its name is known. -/
def declare (c : Cluster) (m : Manifest) : Cluster :=
  match m.body with
  | .configMap data => if (c.configMap? m.name).isSome then c else c.insertConfigMap m.name data
  | .secret keys => if (c.secretKeys? m.name).isSome then c else c.insertSecret m.name keys
  | _ => c

def ofManifests (ms : List Manifest) : Cluster :=
  ms.foldl declare {}

end Cluster

end SecretFlow
