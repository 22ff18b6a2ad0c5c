import SecretFlow.Config.Basic
import SecretFlow.Config.Failure
import SecretFlow.Ignore.Layer

set_option autoImplicit false
set_option relaxedAutoImplicit false

/-!
The manifest files below a root.
-/

namespace SecretFlow

open Ignore (Layer)

structure LoadOptions where
  exclude : List (List Glob.Part) := []
  maxFileBytes : Nat := 1048576
  maxDepth : Nat := 16

namespace LoadOptions

private def readGlobs : List String → Except Failure (List (List Glob.Part))
  | [] => .ok []
  | p :: rest =>
      match Glob.read p with
      | .error e => .error (.config (.excludeGlob p e))
      | .ok parts =>
          match readGlobs rest with
          | .ok others => .ok (parts :: others)
          | .error e => .error e

def ofSettings (s : ScanSettings) : Except Failure LoadOptions :=
  match readGlobs s.exclude with
  | .ok exclude => .ok ⟨exclude, s.maxFileBytes, s.maxDepth⟩
  | .error e => .error e

def excludes (o : LoadOptions) (root path : String) : Bool :=
  let relative := ((Path.below? root path).getD path).toList
  o.exclude.any fun glob => Glob.fits glob relative

end LoadOptions

mutual

/-- The files below an entry at a path, through a number of folders. -/
def Entry.filesBelow (files : FileTree) (layers : List Layer) (place : Location)
    (path : String) : Nat → Entry → List String
  | _, .file _ => [path]
  | 0, .folder _ => []
  | room + 1, .folder entries =>
      filesOfAll files (.ofFolder files place.length (.folder entries) :: layers) place path room
        entries

/-- The files among and below entries of a folder, without those that are ignored. -/
def filesOfAll (files : FileTree) (layers : List Layer) (place : Location) (path : String)
    (room : Nat) : List (String × Entry) → List String
  | [] => []
  | (name, entry) :: rest =>
      let others := filesOfAll files layers place path room rest
      if Ignore.isIgnored layers (place ++ [name]) (!entry.isFile) then others
      else
        entry.filesBelow files layers (place ++ [name]) (Path.join path name) room ++ others

end

def isManifestFile (path : String) : Bool :=
  match Path.extension? path with
  | some e => e.toLower = "yaml" || e.toLower = "yml"
  | none => false

/-- The manifest files below a root in order; a root that is a file is the only one. -/
def manifestFiles (files : FileTree) (root : String) (options : LoadOptions) :
    Except Failure (List String) :=
  match files.locate root with
  | .error _ => .error (.missingRoot root)
  | .ok place =>
      match files.top.at? place with
      | none => .error (.missingRoot root)
      | some (.file _) => .ok [root]
      | some folder =>
          let found := folder.filesBelow files (Ignore.layersAbove files place) place root
            options.maxDepth
          .ok ((found.filter fun p => isManifestFile p && !options.excludes root p).mergeSort
            Path.le)

end SecretFlow
