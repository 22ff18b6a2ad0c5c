import SecretFlow.Digest.Sha256
import SecretFlow.Files.Tree
import SecretFlow.Manifest.Loading
import SecretFlow.Text.Normal

set_option autoImplicit false
set_option relaxedAutoImplicit false

/-!
Loading the manifests of a file.
-/

namespace SecretFlow

/-- The content of a file of at most a given size. -/
def FileContent.read (files : FileTree) (maxBytes : Nat) (path : String) :
    Except String FileContent :=
  match files.entry path with
  | .error e => .error e.message
  | .ok found =>
      if found.size > maxBytes then
        .error s!"{found.size} bytes exceeds limit of {maxBytes}"
      else
        match found with
        | .folder _ => .error AccessError.isFolder.message
        | .file bytes =>
            .ok ⟨Digest.sha256Text bytes, Yaml.documents (Text.normalizeBytes bytes)⟩

/-- Read a file of at most a given size. -/
def ManifestFile.read (files : FileTree) (maxBytes : Nat) (path : String) : ManifestFile :=
  ⟨path, FileContent.read files maxBytes path⟩

/-- The manifests and errors of a file of at most a given size. -/
def Manifest.loadFile (files : FileTree) (maxBytes : Nat) (path : String) :
    List (Except LoadError Manifest) :=
  (ManifestFile.read files maxBytes path).load

end SecretFlow
