import SecretFlow.Pattern.Basic

set_option autoImplicit false
set_option relaxedAutoImplicit false

/-!
Patterns in a simple form. Sequences and choices are flat, literals that follow each other are
one, a choice among characters is a set of characters, and what all branches of a choice start
with stands before it.
-/

namespace SecretFlow.Pattern

open Text (CharRanges)

def nothing : Pattern :=
  .chars .empty true

def ofSet (set : CharRanges) (bytes : Bool) : Pattern :=
  if set.isEmpty then nothing
  else
    match set.only? with
    | some c => .literal [c]
    | none => .chars set bytes

/-- A repetition. What takes no byte is repeated at most once. -/
def ofRepetition (body : Pattern) (least : Nat) (most : Option Nat) (greedy : Bool) : Pattern :=
  let (least, most) :=
    if body.isAlwaysEmpty then (min least 1, some (min (most.getD 1) 1)) else (least, most)
  if least = 0 && most = some 0 then .empty
  else if least = 1 && most = some 1 then body
  else .repeated body least most greedy

private def parts : Pattern → List Pattern
  | .empty => []
  | .sequence ps => ps
  | p => [p]

/-- Put a pattern before others; two literals become one. -/
private def addPart : Pattern → List Pattern → List Pattern
  | .literal a, .literal b :: rest => .literal (a ++ b) :: rest
  | p, rest => p :: rest

def ofParts (ps : List Pattern) : Pattern :=
  match (ps.flatMap parts).foldr addPart [] with
  | [] => .empty
  | [p] => p
  | ps => .sequence ps

private def branches : Pattern → List Pattern
  | .choice ps => ps
  | p => [p]

private def singleChar? : Pattern → Option CharRanges
  | .literal [c] => some (.single c)
  | _ => none

private def charSet? : Pattern → Option CharRanges
  | .chars set _ => some set
  | _ => none

/-- Branches as one set of characters: if each is one character, or each is a set. -/
private def unitedSet? (ps : List Pattern) : Option CharRanges :=
  ((ps.mapM singleChar?).orElse fun _ => ps.mapM charSet?).map fun sets =>
    sets.foldl CharRanges.union .empty

private def ofFlatBranches (ps : List Pattern) : Pattern :=
  match ps with
  | [] => nothing
  | [p] => p
  | ps =>
      match unitedSet? ps with
      | some set => ofSet set false
      | none => .choice ps

private def sequence? : Pattern → Option (List Pattern)
  | .sequence ps => some ps
  | _ => none

private def commonLength : List Pattern → List Pattern → Nat
  | p :: ps, q :: qs => if same p q then commonLength ps qs + 1 else 0
  | _, _ => 0

private def commonStart : List (List Pattern) → List Pattern
  | [] => []
  | first :: rest => first.take ((rest.map (commonLength first)).foldl min first.length)

/-- Alternatives. If all are sequences that start alike, the common parts stand before the choice
among the rest; the branches of that choice do not start alike any more. -/
def ofBranches (ps : List Pattern) : Pattern :=
  match ofFlatBranches (ps.flatMap branches) with
  | .choice ps =>
      match ps.mapM sequence? with
      | some sequences =>
          let start := commonStart sequences
          if start.isEmpty then .choice ps
          else
            let ends := sequences.map fun s => ofParts (s.drop start.length)
            ofParts (start ++ [ofFlatBranches (ends.flatMap branches)])
      | none => .choice ps
  | p => p

end SecretFlow.Pattern
