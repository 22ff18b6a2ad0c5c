import SecretFlow.Cluster
import SecretFlow.Files.Tree
import SecretFlow.Script.Reference
import SecretFlow.Text.Normal

set_option autoImplicit false
set_option relaxedAutoImplicit false

/-!
Scripts of a file tree. A path in a container is looked for beside the manifest and below the scan
root, and no file outside the scan root is read.
-/

namespace SecretFlow

structure ScriptSource where
  files : FileTree
  manifestDir : String
  scanRoot : String
  cluster : Cluster
  maxBytes : Nat := 1048576

namespace ScriptSource

def candidates (s : ScriptSource) (path : String) : List String :=
  let relative := Path.ofComponents ((Path.components path).filter (· ≠ .root))
  [Path.join s.manifestDir relative, Path.join s.scanRoot relative] ++
    match Path.fileName? path with
    | some name => [Path.join s.manifestDir name]
    | none => []

def withinRoot (s : ScriptSource) (path : String) : Bool :=
  match s.files.locate path, s.files.locate s.scanRoot with
  | .ok place, .ok root => root.isPrefixOf place
  | _, _ => false

/-- The text of a script file of at most the given size. -/
def readScript (s : ScriptSource) (path : String) : Except ResolveError String :=
  match s.files.entry path with
  | .error .missing => .error (.notFound path)
  | .error e => .error (.unreadable s!"{path}: {e.message}")
  | .ok found =>
      if found.size > s.maxBytes then
        .error (.unreadable s!"{path}: {found.size} bytes exceeds limit of {s.maxBytes}")
      else
        match found with
        | .file bytes => .ok (Text.normalizeBytes bytes)
        | .folder _ => .error (.unreadable s!"{path}: {AccessError.isFolder.message}")

/-- The texts of scripts. A path that contains a variable is never looked for. -/
def resolve (s : ScriptSource) : Resolver
  | .inline _ text => .ok text
  | .configMap name key =>
      match s.cluster.entry? name key with
      | some text => .ok (Text.normalizeText text)
      | none => .error (.notFound (ScriptRef.configMap name key).key)
  | .path path =>
      if path.contains '$' then .error (.notFound (ScriptRef.path path).key)
      else
        match (s.candidates path).find? fun c => s.files.isFile c && s.withinRoot c with
        | some file => s.readScript file
        | none => .error (.notFound (ScriptRef.path path).key)

end ScriptSource

end SecretFlow
