import SecretFlow.Pattern.Reader.Class
import SecretFlow.Text.Property

set_option autoImplicit false
set_option relaxedAutoImplicit false

/-!
Reading a pattern from its text. Groups that are open are kept as a list, the innermost first, so
the text is read from left to right in one go.
-/

namespace SecretFlow.Pattern

open Text (isBlank)

/-- What has been read of a group: finished alternatives and the parts of the current one, both
with the last first, and whether the text around the group is verbose. -/
private structure OpenGroup where
  kind : GroupKind
  verboseAround : Bool
  branches : List Expr := []
  parts : List Expr := []

private def OpenGroup.body (g : OpenGroup) : Expr :=
  Expr.ofBranches (g.branches.reverse ++ [Expr.ofParts g.parts.reverse])

/-- The state of reading: whether blanks count, the innermost group with the groups around it, how
many groups capture, and the names of those that have one. The whole pattern is a group too. -/
private structure Reading where
  verbose : Bool
  current : OpenGroup
  outer : List OpenGroup
  captures : Nat
  names : List (List Char)

private def Reading.push (r : Reading) (e : Expr) : Reading :=
  { r with current := { r.current with parts := e :: r.current.parts } }

private def Reading.openGroup (r : Reading) (kind : GroupKind) (verbose : Bool) : Reading :=
  { r with
    verbose
    current := { kind, verboseAround := r.verbose }
    outer := r.current :: r.outer }

private def Reading.openCapture (r : Reading) : Reading :=
  { r with captures := r.captures + 1 }.openGroup (.capture (r.captures + 1)) r.verbose

private def hasProperty (name : String) (c : Char) : Bool :=
  (Text.Property.named? name.toList).any (·.contains c)

private def isNameChar (first : Bool) (c : Char) : Bool :=
  c = '_' || c.isAlpha || (!first && (c.isDigit || c = '.' || c = '[' || c = ']')) ||
    (0x80 ≤ c.toNat &&
      (hasProperty "alphabetic" c || (!first && hasProperty "number" c)))

private def readGroupName (r : Reading) (s : List Char) :
    Except PatternError (Reading × List Char) :=
  let name := s.takeWhile (· ≠ '>')
  if name.isEmpty || (s.drop name.length).isEmpty || r.names.contains name ||
      !(name.take 1).all (isNameChar true) || !name.all (isNameChar false) then
    .error .groupName
  else .ok ({ r with names := name :: r.names }.openCapture, s.drop (name.length + 1))

/-- Flag letters up to `:` or `)`. After a hyphen flags are switched off. -/
private def readFlags (off dangling : Bool) (change : FlagChange) :
    List Char → Except PatternError (FlagChange × List Char)
  | [] => .error .flags
  | c :: rest =>
      if c = ':' || c = ')' then if dangling then .error .flags else .ok (change, c :: rest)
      else if c = '-' then if off then .error .flags else readFlags true true change rest
      else
        match Flag.ofChar? c with
        | some f =>
            if change.names f then .error .flags
            else if off then readFlags off false { change with off := f :: change.off } rest
            else readFlags off false { change with on := f :: change.on } rest
        | none => .error .flags

private def isLookAround (s : List Char) : Bool :=
  ["?=", "?!", "?<=", "?<!"].any fun t => t.toList.isPrefixOf s

private def readGroup (r : Reading) (s : List Char) : Except PatternError (Reading × List Char) :=
  let s := skipSpace r.verbose s
  if isLookAround s then .error .lookAround
  else
    match s with
    | '?' :: 'P' :: '<' :: rest => readGroupName r rest
    | '?' :: '<' :: rest => readGroupName r rest
    | '?' :: rest =>
        match readFlags false false {} rest with
        | .error e => .error e
        | .ok (_, []) => .error .flags
        | .ok (change, c :: after) =>
            let verbose := (change.value? .verbose).getD r.verbose
            if c = ':' then .ok (r.openGroup (.plain change) verbose, after)
            else if change = {} then .error .nothingToRepeat
            else .ok ({ r with verbose }.push (.flags change), after)
    | _ => .ok (r.openCapture, s)

private def Reading.closeGroup (r : Reading) : Except PatternError Reading :=
  match r.outer with
  | [] => .error .unopenedGroup
  | around :: outer =>
      .ok ({ r with verbose := r.current.verboseAround, current := around, outer }.push
        (.group r.current.kind r.current.body))

private def Reading.nextBranch (r : Reading) : Reading :=
  { r with current := { r.current with
    branches := Expr.ofParts r.current.parts.reverse :: r.current.branches
    parts := [] } }

/-- Repeat the last part, if there is one that can be repeated. -/
private def Reading.repeatLast (r : Reading) (least : Nat) (most : Option Nat) (greedy : Bool) :
    Except PatternError Reading :=
  match r.current.parts with
  | [] => .error .nothingToRepeat
  | .empty :: _ => .error .nothingToRepeat
  | .flags _ :: _ => .error .nothingToRepeat
  | e :: before =>
      .ok { r with current := { r.current with parts := .repeated e least most greedy :: before } }

private def repeatMarked (r : Reading) (least : Nat) (most : Option Nat) (s : List Char) :
    Except PatternError (Reading × List Char) :=
  match s with
  | '?' :: rest => (r.repeatLast least most false).map (·, rest)
  | _ => (r.repeatLast least most true).map (·, s)

private def readDecimal (verbose : Bool) : Nat → List Char → List Char → List Char × List Char
  | 0, digits, s => (digits.reverse, s)
  | turns + 1, digits, s =>
      match s with
      | [] => (digits.reverse, [])
      | c :: rest =>
          if c.isDigit then readDecimal verbose turns (c :: digits) (skipSpace verbose rest)
          else (digits.reverse, c :: rest)

private def dropBlanks (verbose : Bool) : Nat → List Char → List Char
  | 0, s => s
  | turns + 1, s =>
      match s with
      | [] => []
      | c :: rest => if isBlank c then dropBlanks verbose turns (skipSpace verbose rest) else s

def maxCount : Nat := 4294967295

private def readCount (verbose : Bool) (s : List Char) : Option Nat × List Char :=
  let s := s.dropWhile isBlank
  let (digits, rest) := readDecimal verbose s.length [] s
  let n := digits.foldl (fun n c => n * 10 + (c.toNat - 48)) 0
  (if digits.isEmpty || maxCount < n then none else some n, dropBlanks verbose rest.length rest)

private def readCounts (verbose : Bool) (s : List Char) :
    Except PatternError ((Nat × Option Nat) × List Char) :=
  match readCount verbose (skipSpace verbose s) with
  | (some least, '\x7d' :: rest) => .ok ((least, some least), rest)
  | (some least, ',' :: rest) =>
      match skipSpace verbose rest with
      | '\x7d' :: after => .ok ((least, none), after)
      | rest =>
          match readCount verbose rest with
          | (some most, '\x7d' :: after) =>
              if least ≤ most then .ok ((least, some most), after) else .error .repetitionCount
          | _ => .error .repetitionCount
  | _ => .error .repetitionCount

private def Escape.expr : Escape → Expr
  | .literal l => .literal l
  | .short kind negated => .short kind negated
  | .property name negated => .property name negated
  | .assertion a => .assertion a

/-- One step: read the construct that starts with a character. -/
private def readStep (r : Reading) (c : Char) (rest : List Char) :
    Except PatternError (Reading × List Char) :=
  match c with
  | '(' => readGroup r rest
  | ')' => r.closeGroup.map (·, rest)
  | '|' => .ok (r.nextBranch, rest)
  | '[' =>
      (readClass r.verbose rest).map fun ((body, negated), after) =>
        (r.push (.bracketed body negated), after)
  | '?' => repeatMarked r 0 (some 1) rest
  | '*' => repeatMarked r 0 none rest
  | '+' => repeatMarked r 1 none rest
  | '\x7b' =>
      match readCounts r.verbose rest with
      | .ok ((least, most), after) => repeatMarked r least most (skipSpace r.verbose after)
      | .error e => .error e
  | '.' => .ok (r.push .dot, rest)
  | '^' => .ok (r.push (.assertion .lineStart), rest)
  | '$' => .ok (r.push (.assertion .lineEnd), rest)
  | '\\' => (readEscape r.verbose rest).map fun (e, after) => (r.push e.expr, after)
  | _ => .ok (r.push (.literal ⟨c, false⟩), rest)

/-- Read to the end. Each step takes a character, so as many steps as characters suffice. -/
private def readSteps : Nat → Reading → List Char → Except PatternError Expr
  | 0, _, _ => .error .tooDeep
  | turns + 1, r, s =>
      match skipSpace r.verbose s with
      | [] => if r.outer.isEmpty then .ok r.current.body else .error .unclosedGroup
      | c :: rest =>
          match readStep r c rest with
          | .ok (r, after) => readSteps turns r after
          | .error e => .error e

def maxDepth : Nat := 250

/-- The tree of a text, unless it is nested too deeply. -/
def Expr.ofText (text : String) : Except PatternError Expr :=
  let s := text.toList
  let whole : OpenGroup := { kind := .plain {}, verboseAround := false }
  match readSteps (s.length + 1) ⟨false, whole, [], 0, []⟩ s with
  | .ok e => if maxDepth < e.depth then .error .tooDeep else .ok e
  | .error e => .error e

end SecretFlow.Pattern
