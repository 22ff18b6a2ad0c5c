import SecretFlow.Manifest.Reading
import SecretFlow.Yaml.Document

set_option autoImplicit false
set_option relaxedAutoImplicit false

/-!
Loading the manifests of a text. Each document that describes an object gives a manifest, and
each other one an error; empty documents count for nothing but their position.
-/

namespace SecretFlow

inductive LoadError where
  | unreadable (file : String) (message : String)
  | malformed (file : String) (docIndex : Nat) (cause : Yaml.YamlError)
  | schema (file : String) (docIndex : Nat) (fault : Manifest.ShapeFault)
  deriving DecidableEq, Repr

namespace LoadError

def file : LoadError → String
  | unreadable file _ => file
  | malformed file _ _ => file
  | schema file _ _ => file

def docIndex? : LoadError → Option Nat
  | unreadable _ _ => none
  | malformed _ i _ => some i
  | schema _ i _ => some i

def message : LoadError → String
  | unreadable file message => s!"{file}: unreadable: {message}"
  | malformed file i cause => s!"{file} (document {i}): malformed YAML: {cause.message}"
  | schema file i fault => s!"{file} (document {i}): not a Kubernetes object: {fault.message}"

end LoadError

namespace Manifest

/-- Load the documents from a position on. After a malformed one nothing can be read. -/
def loadFrom (file contentHash : String) :
    Nat → List (Except Yaml.YamlError Yaml.Value) → List (Except LoadError Manifest)
  | _, [] => []
  | i, .error cause :: _ => [.error (.malformed file i cause)]
  | i, .ok doc :: rest =>
      let others := loadFrom file contentHash (i + 1) rest
      if doc.isNull then others
      else
        match shapeFault? doc with
        | some fault => .error (.schema file i fault) :: others
        | none => .ok (ofDocument doc file i contentHash) :: others

def loadText (text file contentHash : String) : List (Except LoadError Manifest) :=
  loadFrom file contentHash 0 (Yaml.documents text)

end Manifest

/-- What was read from a file: a digest of its bytes, and its documents. -/
structure FileContent where
  digest : String
  documents : List (Except Yaml.YamlError Yaml.Value)

/-- A file that should hold manifests. If it could not be read, a message stands in the place of its
content. -/
structure ManifestFile where
  path : String
  content : Except String FileContent

def ManifestFile.load (f : ManifestFile) : List (Except LoadError Manifest) :=
  match f.content with
  | .error message => [.error (.unreadable f.path message)]
  | .ok content => Manifest.loadFrom f.path content.digest 0 content.documents

end SecretFlow
