import SecretFlow.Path
import SecretFlow.Text.Utf8

set_option autoImplicit false
set_option relaxedAutoImplicit false

/-!
File trees: folders and files below one top folder, and a folder from which relative paths start.
A path is followed step by step, so that every folder it goes through has to exist, also one that
it leaves again.
-/

namespace SecretFlow

open Text.Utf8 (Bytes)

/-- A file with its bytes, or a folder with what it holds by name. -/
inductive Entry where
  | file (bytes : Bytes)
  | folder (entries : List (String × Entry))

namespace Entry

def child? (name : String) : Entry → Option Entry
  | file _ => none
  | folder entries => entries.lookup name

def at? (entry : Entry) : List String → Option Entry
  | [] => some entry
  | name :: rest =>
      match entry.child? name with
      | some below => below.at? rest
      | none => none

def isFile : Entry → Bool
  | file _ => true
  | folder _ => false

/-- The number of bytes that an entry takes; a folder takes one block. -/
def size : Entry → Nat
  | file bytes => bytes.length
  | folder _ => 4096

/-- Set the entry of a name, in its place if the name is taken. -/
private def setEntry (name : String) (value : Entry) :
    List (String × Entry) → List (String × Entry)
  | [] => [(name, value)]
  | (n, e) :: rest => if n = name then (name, value) :: rest else (n, e) :: setEntry name value rest

/-- Put an entry below another one, with the folders on the way to it. -/
def put (value : Entry) : List String → Entry → Entry
  | [], _ => value
  | name :: rest, folder entries =>
      folder (setEntry name (put value rest ((entries.lookup name).getD (folder []))) entries)
  | name :: rest, file _ => folder [(name, put value rest (folder []))]

end Entry

abbrev Location := List String

structure FileTree where
  top : Entry
  here : Location

inductive AccessError where
  | missing
  | notFolder
  | isFolder
  deriving DecidableEq, Repr

def AccessError.message : AccessError → String
  | missing => "No such file or directory (os error 2)"
  | notFolder => "Not a directory (os error 20)"
  | isFolder => "Is a directory (os error 21)"

namespace FileTree

/-- Follow one piece of a path from a folder. Above the top folder is the top folder. -/
def step (t : FileTree) (place : Location) (piece : String) : Except AccessError Location :=
  match t.top.at? place with
  | none => .error .missing
  | some (.file _) => .error .notFolder
  | some (.folder entries) =>
      if piece = "." then .ok place
      else if piece = ".." then .ok place.dropLast
      else if (entries.lookup piece).isSome then .ok (place ++ [piece])
      else .error .missing

def follow (t : FileTree) : Location → List String → Except AccessError Location
  | place, [] => .ok place
  | place, piece :: rest =>
      match t.step place piece with
      | .ok next => t.follow next rest
      | .error e => .error e

/-- The pieces to follow. A separator at the end asks for a folder. -/
def pieces (path : String) : List String :=
  let between := ((path.toList.splitOn '/').filter (· ≠ [])).map String.ofList
  if path.toList.getLast? = some '/' then between ++ ["."] else between

def locate (t : FileTree) (path : String) : Except AccessError Location :=
  if path.isEmpty then .error .missing
  else t.follow (if Path.isAbsolute path then [] else t.here) (pieces path)

def entry (t : FileTree) (path : String) : Except AccessError Entry :=
  match t.locate path with
  | .error e => .error e
  | .ok place =>
      match t.top.at? place with
      | some found => .ok found
      | none => .error .missing

def holds (t : FileTree) (path : String) : Bool :=
  match t.entry path with
  | .ok _ => true
  | .error _ => false

def isFile (t : FileTree) (path : String) : Bool :=
  match t.entry path with
  | .ok found => found.isFile
  | .error _ => false

def read (t : FileTree) (path : String) : Except AccessError Bytes :=
  match t.entry path with
  | .ok (.file bytes) => .ok bytes
  | .ok (.folder _) => .error .isFolder
  | .error e => .error e

/-- The folder in which a new file of a path would stand, and its name. -/
private def placeOfNew (t : FileTree) (path : String) : Except AccessError Location :=
  if path.toList.getLast? = some '/' then .error .isFolder
  else
    match (pieces path).reverse with
    | [] => .error .missing
    | name :: before =>
        match t.follow (if Path.isAbsolute path then [] else t.here) before.reverse with
        | .error e => .error e
        | .ok place =>
            match t.step place "." with
            | .error e => .error e
            | .ok _ => .ok (place ++ [name])

/-- The tree after a file has been written, in the place of one that stood there. -/
def write (t : FileTree) (path : String) (bytes : Bytes) : Except AccessError FileTree :=
  match t.locate path with
  | .ok place =>
      match t.top.at? place with
      | some (.folder _) => .error .isFolder
      | _ => .ok { t with top := Entry.put (.file bytes) place t.top }
  | .error .missing =>
      match placeOfNew t path with
      | .ok place => .ok { t with top := Entry.put (.file bytes) place t.top }
      | .error e => .error e
  | .error e => .error e

/-- The tree in which a folder holds the given files; a path that ends in a separator is a folder.
-/
def ofFiles (here : Location) (files : List (String × Bytes)) : FileTree :=
  let add (top : Entry) (item : String × Bytes) : Entry :=
    let names := here ++ ((item.1.toList.splitOn '/').filter (· ≠ [])).map String.ofList
    if item.1.toList.getLast? = some '/' then
      if (top.at? names).isSome then top else Entry.put (.folder []) names top
    else Entry.put (.file item.2) names top
  ⟨files.foldl add (Entry.put (.folder []) here (.folder [])), here⟩

end FileTree

end SecretFlow
