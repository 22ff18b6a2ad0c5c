set_option autoImplicit false
set_option relaxedAutoImplicit false

/-!
Numeric addresses in URLs: how they are read and written.
-/

namespace SecretFlow.Url

private def addressDigit? (base : Nat) (c : Char) : Option Nat :=
  let d? :=
    if c.isDigit then some (c.toNat - '0'.toNat)
    else if 'a' ≤ c && c ≤ 'f' then some (c.toNat - 'a'.toNat + 10)
    else if 'A' ≤ c && c ≤ 'F' then some (c.toNat - 'A'.toNat + 10)
    else none
  d?.filter (· < base)

private def digitsValue? (base : Nat) (s : List Char) : Option Nat :=
  s.foldl (fun acc c => do return (← acc) * base + (← addressDigit? base c)) (some 0)

/-- A part of an address of four bytes: hexadecimal after a zero and an x, octal after a zero,
decimal otherwise. -/
def partValue? : List Char → Option Nat
  | [] => none
  | '0' :: 'x' :: rest => digitsValue? 16 rest
  | '0' :: 'X' :: rest => digitsValue? 16 rest
  | ['0'] => some 0
  | '0' :: rest => digitsValue? 8 rest
  | s => digitsValue? 10 s

/-- The parts between dots; an empty one at the end does not count. -/
private def dottedParts (s : List Char) : List (List Char) :=
  let parts := s.splitOn '.'
  match parts.reverse with
  | [] :: before => before.reverse
  | _ => parts

/-- Whether the last part of a domain is a number, so that all of it is meant as an address. -/
def endsInNumber (domain : List Char) : Bool :=
  let last? := match (domain.splitOn '.').reverse with
    | [] :: last :: _ => some last
    | [[]] => none
    | last :: _ => some last
    | [] => none
  match last? with
  | none => false
  | some last => (!last.isEmpty && last.all Char.isDigit) || (partValue? last).isSome

/-- The bytes of an address of up to four parts, of which the last fills what is left. -/
def readAddress4? (domain : List Char) : Option (List Nat) := do
  let parts := dottedParts domain
  if 4 < parts.length then none
  let values ← parts.mapM partValue?
  match values.reverse with
  | [] => none
  | last :: before =>
      if Nat.pow 256 (4 - before.length) ≤ last || before.any (255 < ·) then none
      let filled := (List.range (4 - before.length)).reverse.map fun i => last / Nat.pow 256 i % 256
      return before.reverse ++ filled

def writeAddress4 (bytes : List Nat) : String :=
  ".".intercalate (bytes.map fun n => toString n)

/-- The state of reading an address of eight pieces: the pieces so far, and how many stood before
the double colon. -/
private structure Pieces where
  pieces : List Nat := []
  gap : Option Nat := none

/-- Bytes in dots at the end of an address; each is a number up to 255 without leading zeros. -/
private def trailingBytes? (s : List Char) : Option (List Nat) := do
  let parts := s.splitOn '.'
  if parts.length ≠ 4 then none
  parts.mapM fun part =>
    match part with
    | [] => none
    | ['0'] => some 0
    | '0' :: _ => none
    | _ => if 3 < part.length then none else (digitsValue? 10 part).filter (· ≤ 255)

private def readPieces : Nat → Pieces → List Char → Option Pieces
  | 0, _, _ => none
  | _ + 1, p, [] => some p
  | turns + 1, p, c :: rest => do
      if p.pieces.length = 8 then none
      else if c = ':' then
        if p.gap.isSome then none
        else readPieces turns ⟨p.pieces ++ [0], some (p.pieces.length + 1)⟩ rest
      else
        let s := c :: rest
        let digits := (s.take 4).takeWhile fun d => (addressDigit? 16 d).isSome
        let after := s.drop digits.length
        let value ← digitsValue? 16 digits
        match after with
        | [] => return { p with pieces := p.pieces ++ [value] }
        | '.' :: _ =>
            if digits.isEmpty || 6 < p.pieces.length then none
            else
              match ← trailingBytes? s with
              | [a, b, c, d] =>
                  return { p with pieces := p.pieces ++ [a * 256 + b, c * 256 + d] }
              | _ => none
        | ':' :: more =>
            if more.isEmpty then none
            else readPieces turns { p with pieces := p.pieces ++ [value] } more
        | _ => none

/-- The eight pieces of an address; a double colon stands for pieces that are zero. -/
def readAddress8? (s : List Char) : Option (List Nat) := do
  let p ← match s with
    | ':' :: ':' :: rest => readPieces (s.length + 1) ⟨[0], some 1⟩ rest
    | ':' :: _ => none
    | [] => none
    | [_] => none
    | _ => readPieces (s.length + 1) {} s
  match p.gap with
  | none => if p.pieces.length = 8 then some p.pieces else none
  | some n => return p.pieces.take n ++ List.replicate (8 - p.pieces.length) 0 ++ p.pieces.drop n

private def zeroRun (pieces : List Nat) : Nat :=
  (pieces.takeWhile (· = 0)).length

/-- The first of the longest runs of at least two zeros: where it starts and its length. -/
private def longestZeros (pieces : List Nat) : Option (Nat × Nat) :=
  let runs := (List.range pieces.length).map fun i => (i, zeroRun (pieces.drop i))
  runs.foldl (fun best run =>
    if run.2 < 2 then best
    else
      match best with
      | none => some run
      | some b => if b.2 < run.2 then some run else some b) none

private def writePieces (pieces : List Nat) : String :=
  ":".intercalate (pieces.map fun n => String.ofList (Nat.toDigits 16 n))

/-- The text of an address of eight pieces; the longest run of zeros becomes a double colon. -/
def writeAddress8 (pieces : List Nat) : String :=
  match longestZeros pieces with
  | none => writePieces pieces
  | some (start, size) =>
      writePieces (pieces.take start) ++ "::" ++ writePieces (pieces.drop (start + size))

end SecretFlow.Url
