set_option autoImplicit false
set_option relaxedAutoImplicit false

/-!
Paths of files as texts. Their components decide equality and order; separators that stand twice
and single dots in the middle do not count.
-/

namespace SecretFlow.Path

inductive Component where
  | root
  | current
  | parent
  | name (text : String)
  deriving DecidableEq, Repr

namespace Component

def rank : Component → Nat
  | root => 0
  | current => 1
  | parent => 2
  | name _ => 3

def le : Component → Component → Bool
  | name a, name b => a ≤ b
  | a, b => a.rank ≤ b.rank

def text : Component → String
  | root => "/"
  | current => "."
  | parent => ".."
  | name s => s

end Component

def isAbsolute (path : String) : Bool :=
  path.toList.head? = some '/'

/-- The start of a path that is a component of its own, and the rest: the root, or a single dot
before a separator or the end. -/
def splitStart (s : List Char) : List Char × List Char :=
  match s with
  | '/' :: rest => (['/'], rest)
  | ['.'] => (['.'], [])
  | '.' :: '/' :: rest => (['.'], '/' :: rest)
  | _ => ([], s)

def startComponent : List Char → List Component
  | ['/'] => [.root]
  | ['.'] => [.current]
  | _ => []

def counts (piece : List Char) : Bool :=
  piece ≠ [] && piece ≠ ['.']

def pieceComponent (piece : List Char) : Component :=
  if piece = ['.', '.'] then .parent else .name (String.ofList piece)

def components (path : String) : List Component :=
  let (start, body) := splitStart path.toList
  startComponent start ++ ((body.splitOn '/').filter counts).map pieceComponent

/-- Drop what does not count at the end. -/
def dropIdleEnd (pieces : List (List Char)) : List (List Char) :=
  (pieces.reverse.dropWhile (!counts ·)).reverse

def joinPieces (pieces : List (List Char)) : List Char :=
  List.intercalate ['/'] pieces

/-- The path without its last component; the root and the empty path have none. -/
def parent? (path : String) : Option String :=
  let (start, body) := splitStart path.toList
  let pieces := dropIdleEnd (body.splitOn '/')
  match pieces.reverse with
  | _ :: before => some (String.ofList (start ++ joinPieces (dropIdleEnd before.reverse)))
  | [] => if start = ['.'] then some "" else none

def fileName? (path : String) : Option String :=
  match (components path).getLast? with
  | some (.name s) => some s
  | _ => none

/-- The part of a file's name after its last dot; a dot at the start does not count. -/
def extension? (path : String) : Option String :=
  match fileName? path with
  | none => none
  | some s =>
      let reversed := s.toList.reverse
      let ending := reversed.takeWhile (· ≠ '.')
      match reversed.dropWhile (· ≠ '.') with
      | _ :: _ :: _ => some (String.ofList ending.reverse)
      | _ => none

/-- A path below another; an absolute one takes its place. -/
def join (base path : String) : String :=
  if isAbsolute path || base.isEmpty then path
  else if base.toList.getLast? = some '/' then base ++ path
  else base ++ "/" ++ path

def ofComponents (cs : List Component) : String :=
  cs.foldl (fun path c => join path c.text) ""

/-- Drop pieces from the front until a number of components is gone. -/
private def dropComponents : Nat → List (List Char) → List (List Char)
  | 0, pieces => pieces.dropWhile (!counts ·)
  | _, [] => []
  | n + 1, piece :: rest =>
      if counts piece then dropComponents n rest else dropComponents (n + 1) rest

/-- The rest of a path below another one that it starts with. -/
def below? (base path : String) : Option String :=
  let gone := components base
  if !gone.isPrefixOf (components path) then none
  else
    let (start, body) := splitStart path.toList
    let pieces := dropIdleEnd (body.splitOn '/')
    if gone.isEmpty then some (String.ofList (start ++ joinPieces pieces))
    else
      some (String.ofList
        (joinPieces (dropComponents (gone.length - (startComponent start).length) pieces)))

private def componentsLe : List Component → List Component → Bool
  | [], _ => true
  | _ :: _, [] => false
  | a :: as, b :: bs => if a = b then componentsLe as bs else a.le b

def le (a b : String) : Bool :=
  componentsLe (components a) (components b)

end SecretFlow.Path
