import SecretFlow.Command.Request
import SecretFlow.Command.Run
import SecretFlow.Report.Stamp
import Std.Time.DateTime.Timestamp

set_option autoImplicit false
set_option relaxedAutoImplicit false

/-!
The program: it reads the files at which a command may look, runs the command on them, and does
what comes out.
-/

namespace SecretFlow.Program

open Command (Request Outcome Reads)

/-- The names down to the place of a path, if there is one. -/
private def place? (path : String) : IO (Option Location) := do
  match ← (IO.FS.realPath path).toBaseIO with
  | .ok found => return some (found.toString.splitOn "/" |>.filter (· ≠ ""))
  | .error _ => return none

private def children? (path : String) : IO (Option (List IO.FS.DirEntry)) := do
  let read : IO (Array IO.FS.DirEntry) := do (← IO.FS.realPath path).readDir
  match ← read.toBaseIO with
  | .ok children => return some children.toList
  | .error _ => return none

/-- A file, or a folder with all that is below it. Links to other places are not followed. -/
private partial def readEntry (path : String) : IO (Option Entry) := do
  match ← children? path with
  | some children =>
      let mut entries := []
      for child in children do
        let linked := match ← child.path.symlinkMetadata.toBaseIO with
          | .ok data => data.type == .symlink
          | .error _ => true
        if !linked then
          if let some entry ← readEntry s!"{path}/{child.fileName}" then
            entries := (child.fileName, entry) :: entries
      return some (.folder entries)
  | none =>
      match ← (IO.FS.readBinFile path).toBaseIO with
      | .ok bytes => return some (.file bytes.toList)
      | .error _ => return none

private def addWay (top : Entry) (path : String) : IO Entry := do
  let start := if Path.isAbsolute path then "/" else ""
  let pieces := path.splitOn "/" |>.filter (· ≠ "")
  let mut top := top
  for i in List.range pieces.length do
    let way := start ++ "/".intercalate (pieces.take (i + 1))
    if let some place ← place? way then
      if (top.at? place).isNone && (← children? way).isSome then
        top := Entry.put (.folder []) place top
  return top

private def addPath (top : Entry) (path : String) : IO Entry := do
  let top ← addWay top path
  match ← place? path, ← readEntry path with
  | some place, some entry => return Entry.put entry place top
  | _, _ => return top

private def addIgnoreFiles (top : Entry) (place : Location) : IO Entry := do
  let mut top := top
  for depth in List.range place.length do
    let folder := place.take depth
    for names in [[".ignore"], [".gitignore"], [".git", "info", "exclude"]] do
      if let some entry ← readEntry ("/" ++ "/".intercalate (folder ++ names)) then
        top := Entry.put entry (folder ++ names) top
    if (← place? ("/" ++ "/".intercalate (folder ++ [".git"]))).isSome then
      if (top.at? (folder ++ [".git"])).isNone then
        top := Entry.put (.folder []) (folder ++ [".git"]) top
  return top

private def readFiles (reads : Reads) : IO FileTree := do
  let here := (← place? ".").getD []
  let mut top := Entry.put (.folder []) here (.folder [])
  if let some root := reads.root then
    let isFolder := (← children? root).isSome
    let beside := match Path.parent? root with
      | some "" | none => "."
      | some parent => parent
    let folder := if isFolder then root else beside
    top ← addIgnoreFiles top ((← place? folder).getD [])
    top ← addPath (← addWay top root) folder
  for path in reads.single do
    if (top.at? ((← place? path).getD [])).isNone || (← place? path).isNone then
      top ← addPath top path
  return ⟨top, here⟩

private def perform (request : Request) : IO Outcome := do
  let reads := match request with
    | .run job => job.reads
    | _ => {}
  let now ← Std.Time.Timestamp.now
  let random ← IO.getRandomBytes 16
  let stamp := RunStamp.ofRandom random.toList now.toSecondsSinceUnixEpoch.val.toNat
  return request.perform (← readFiles reads) stamp

end SecretFlow.Program

def main (args : List String) : IO UInt32 := do
  let outcome ← SecretFlow.Program.perform (SecretFlow.Command.Request.ofArguments args)
  if let some (path, text) := outcome.written then
    IO.FS.writeFile path text
  IO.print outcome.out
  IO.eprint outcome.err
  return outcome.exit.toUInt32
