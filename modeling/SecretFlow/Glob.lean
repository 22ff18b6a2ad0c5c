set_option autoImplicit false
set_option relaxedAutoImplicit false

/-!
Wildcard patterns over paths. A star stands for any text, also across separators; two stars are a
component of their own and stand for any number of components.
-/

namespace SecretFlow.Glob

inductive CharSpec where
  | single (c : Char)
  | range (low high : Char)
  deriving DecidableEq, Repr

def CharSpec.holds (c : Char) : CharSpec → Bool
  | single d => c = d
  | range low high => low ≤ c && c ≤ high

inductive Part where
  | char (c : Char)
  | anyChar
  | anyText
  | anyComponents
  | oneOf (specs : List CharSpec)
  | noneOf (specs : List CharSpec)
  deriving DecidableEq, Repr

inductive Fault where
  | tooManyStars
  | partialComponent
  | invalidRange
  deriving DecidableEq, Repr

structure GlobError where
  position : Nat
  fault : Fault
  deriving DecidableEq, Repr

def GlobError.message (e : GlobError) : String :=
  let what := match e.fault with
    | .tooManyStars => "wildcards are either regular `*` or recursive `**`"
    | .partialComponent => "recursive wildcards must form a single path component"
    | .invalidRange => "invalid range pattern"
  s!"Pattern syntax error near position {e.position}: {what}"

/-- The characters in square brackets; two with a hyphen between them are a range. -/
def readSpecs : List Char → List CharSpec
  | a :: '-' :: b :: rest => .range a b :: readSpecs rest
  | a :: rest => .single a :: readSpecs rest
  | [] => []

/-- What stands in square brackets, after the opening one, and the rest. A closing bracket that is
the first character belongs to it. -/
private def readBrackets? (s : List Char) : Option (Part × List Char) :=
  let (negated, body) := match s with
    | '!' :: rest => (true, rest)
    | _ => (false, s)
  match body with
  | [] => none
  | first :: rest =>
      match rest.dropWhile (· ≠ ']') with
      | [] => none
      | _ :: after =>
          let specs := readSpecs (first :: rest.takeWhile (· ≠ ']'))
          some (if negated then .noneOf specs else .oneOf specs, after)

/-- Read a pattern from a position on; the character before it is given. -/
private def readFrom : Nat → Nat → Option Char → List Char → Except GlobError (List Part)
  | 0, _, _, _ => .ok []
  | _ + 1, _, _, [] => .ok []
  | turns + 1, pos, before, c :: rest => do
      match c with
      | '?' => return .anyChar :: (← readFrom turns (pos + 1) (some c) rest)
      | '*' =>
          let stars := (c :: rest).takeWhile (· = '*') |>.length
          let after := (c :: rest).drop stars
          if 2 < stars then .error ⟨pos + 2, .tooManyStars⟩
          else if stars = 1 then
            return .anyText :: (← readFrom turns (pos + 1) (some c) after)
          else if before ≠ none && before ≠ some '/' then .error ⟨pos - 1, .partialComponent⟩
          else
            match after with
            | [] => return [.anyComponents]
            | '/' :: more =>
                return .anyComponents :: (← readFrom turns (pos + 3) (some '/') more)
            | _ => .error ⟨pos + 2, .partialComponent⟩
      | '[' =>
          match readBrackets? rest with
          | none => .error ⟨pos, .invalidRange⟩
          | some (part, after) =>
              let size := rest.length - after.length + 1
              return part :: (← readFrom turns (pos + size) (some ']') after)
      | _ => return .char c :: (← readFrom turns (pos + 1) (some c) rest)

def read (pattern : String) : Except GlobError (List Part) :=
  readFrom pattern.length 0 none pattern.toList

/-- How a text compares with a pattern. A text that ends too early is told from one that differs:
then no end of it fits either. -/
inductive Fit where
  | fits
  | differs
  | endsEarly
  deriving DecidableEq, Repr

private def Fit.orElse (first : Fit) (second : Unit → Fit) : Fit :=
  match first with
  | .differs => second ()
  | settled => settled

/-- How the longest end of a text compares that settles the matter. -/
private def atEnds (compare : List Char → Fit) : List Char → Fit
  | [] => compare []
  | c :: rest => (compare (c :: rest)).orElse fun _ => atEnds compare rest

/-- How the longest text after a separator compares that settles the matter; the empty end comes
last. -/
private def belowSeparators (compare : List Char → Fit) : List Char → Fit
  | [] => compare []
  | c :: rest =>
      (if c = '/' then compare rest else .differs).orElse fun _ => belowSeparators compare rest

def fit : List Part → List Char → Fit
  | [], s => if s.isEmpty then .fits else .differs
  | .anyText :: parts, s => atEnds (fit parts) s
  | .anyComponents :: parts, s => (fit parts s).orElse fun _ => belowSeparators (fit parts) s
  | _ :: _, [] => .endsEarly
  | .char d :: parts, c :: rest => if c = d then fit parts rest else .differs
  | .anyChar :: parts, _ :: rest => fit parts rest
  | .oneOf specs :: parts, c :: rest =>
      if specs.any (·.holds c) then fit parts rest else .differs
  | .noneOf specs :: parts, c :: rest =>
      if specs.any (·.holds c) then .differs else fit parts rest

def fits (parts : List Part) (s : List Char) : Bool :=
  fit parts s = .fits

end SecretFlow.Glob
