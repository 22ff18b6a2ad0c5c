import SecretFlow.Flow.Step
import SecretFlow.Manifest.Basic
import SecretFlow.Path
import SecretFlow.Script.Reference
import SecretFlow.Text.Search

set_option autoImplicit false
set_option relaxedAutoImplicit false

/-!
The container that is looked at: how its nodes are named, where they come from, and which script
is meant by a path inside it.
-/

namespace SecretFlow

structure ConfigMount where
  mountPath : String
  configMap : String
  subPath : Option String
  items : List KeyPath
  deriving DecidableEq, Repr

structure Place where
  name : String
  field : String
  file : String
  configMounts : List ConfigMount
  deriving DecidableEq, Repr

/-- The volume of a name; the last one counts. -/
def volume? (volumes : List Volume) (name : String) : Option Volume :=
  volumes.reverse.find? (·.name = name)

namespace Place

def ofContainer (file : String) (volumes : List Volume) (c : Container) : Place where
  name := c.name
  field := c.field
  file := file
  configMounts := c.mounts.filterMap fun m =>
    match (volume? volumes m.name).map Volume.source with
    | some (.configMap name items) => some ⟨m.mountPath, name, m.subPath, items⟩
    | _ => none

def id (p : Place) (label : String) : NodeId :=
  s!"c:{p.name}:{label}"

def origin (p : Place) (field : String) : Origin :=
  .manifest p.file field

def note (p : Place) (kind : DiagnosticKind) (message : String) : GraphStep :=
  .note ⟨kind, message, some (p.origin p.field)⟩

/-- The key of a config map that a path is, if it lies at the mount. -/
private def mountedKey? (mount : ConfigMount) (target : List Char) : Option String :=
  let base := Text.dropRepeatedEnd '/' mount.mountPath.toList
  match mount.subPath with
  | some sub => if target = base then some sub else none
  | none =>
      match base.isPrefixOf? target with
      | some ('/' :: rest) =>
          let file := String.ofList rest
          some (((mount.items.find? (·.path = file)).map (·.key)).getD file)
      | _ => none

/-- The script beside another one that a relative path means, if the other one has a place. -/
private def beside? (path : String) : ScriptRef → Option ScriptRef
  | .path parent =>
      match Path.parent? parent with
      | none => none
      | some dir =>
          if dir.isEmpty || Path.components dir = [.current] then none
          else some (.path (Path.join dir ((Path.below? "./" path).getD path)))
  | .configMap name _ => (Path.fileName? path).map (.configMap name)
  | .inline _ _ => none

/-- The script that a path means, in an argument or in another script. Quotes around it do not
count. -/
def scriptRef (p : Place) (target : String) (current : Option ScriptRef) : ScriptRef :=
  let target := Text.dropAround Text.isQuote target.toList
  let mounted := p.configMounts.findSome? fun mount =>
    (mountedKey? mount target).map fun key => ScriptRef.configMap mount.configMap key
  let path := String.ofList target
  match mounted with
  | some ref => ref
  | none =>
      if Path.isAbsolute path then .path path
      else (current.bind (beside? path)).getD (.path path)

end Place

end SecretFlow
