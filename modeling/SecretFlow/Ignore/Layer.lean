import SecretFlow.Files.Tree
import SecretFlow.Ignore.Rule

set_option autoImplicit false
set_option relaxedAutoImplicit false

/-!
The ignore files that hold for a place in a file tree: those of the folders above it, the nearest
first. The files of version control count only inside a repository.
-/

namespace SecretFlow.Ignore

open Text.Utf8 (Bytes)

structure Layer where
  depth : Nat
  plain : List Rule := []
  versioned : List Rule := []
  excluded : List Rule := []
  isRepository : Bool := false

private def rulesAt (folder : Entry) (names : List String) : List Rule :=
  match folder.at? names with
  | some (.file bytes) => rulesOf bytes
  | _ => []

private def firstLine? (bytes : Bytes) : Option (List Char) :=
  if bytes.isEmpty then none else (linesOf bytes).head?

/-- The folder that several working trees share, from the file that stands for it in one of them:
the file names the folder of this tree, in which another file names the shared one. -/
private def sharedFolder? (files : FileTree) (bytes : Bytes) : Option String :=
  match firstLine? bytes with
  | none => none
  | some line =>
      let mark := "gitdir: ".toList
      if !mark.isPrefixOf line then none
      else
        let own := String.ofList (line.drop mark.length)
        match files.read (Path.join own "commondir") with
        | .error _ => none
        | .ok named =>
            (firstLine? named).map fun shared =>
              if shared.head? = some '.' then Path.join own (String.ofList shared)
              else String.ofList shared

private def ownRules (files : FileTree) (folder : Entry) : List Rule :=
  match folder.child? ".git" with
  | some (.file bytes) =>
      match sharedFolder? files bytes with
      | none => []
      | some shared =>
          match files.read (Path.join shared "info/exclude") with
          | .ok rules => rulesOf rules
          | .error _ => []
  | _ => rulesAt folder [".git", "info", "exclude"]

/-- The layer of a folder that lies a number of names below the top. -/
def Layer.ofFolder (files : FileTree) (depth : Nat) (folder : Entry) : Layer where
  depth := depth
  plain := rulesAt folder [".ignore"]
  versioned := rulesAt folder [".gitignore"]
  excluded := ownRules files folder
  isRepository := (folder.child? ".git").isSome || (folder.child? ".jj").isSome

def layersAbove (files : FileTree) (place : Location) : List Layer :=
  ((List.range place.length).reverse).filterMap fun depth =>
    (files.top.at? (place.take depth)).map (Layer.ofFolder files depth)

/-- The layers up to the nearest repository; none if there is no repository. -/
private def untilRepository : List Layer → List Layer
  | [] => []
  | s :: rest =>
      if s.isRepository then [s]
      else if rest.any (·.isRepository) then s :: untilRepository rest
      else []

/-- Whether the rules of the layers ignore or keep an entry. Plain files come before those of
version control, and nearer ones before others. -/
def ruled? (layers : List Layer) (place : Location) (isFolder : Bool) : Option Bool :=
  let verdictOf (rules : Layer → List Rule) (s : Layer) : Option Bool :=
    ignored? (rules s) (Text.Utf8.encode ("/".intercalate (place.drop s.depth))) isFolder
  let repository := untilRepository layers
  (layers.findSome? (verdictOf Layer.plain)).or
    ((repository.findSome? (verdictOf Layer.versioned)).or
      (repository.findSome? (verdictOf Layer.excluded)))

/-- Whether an entry is passed over. A hidden one is, unless a rule keeps it. -/
def isIgnored (layers : List Layer) (place : Location) (isFolder : Bool) : Bool :=
  let hidden := (place.getLast?.getD "").startsWith "."
  (ruled? layers place isFolder).getD hidden

end SecretFlow.Ignore
