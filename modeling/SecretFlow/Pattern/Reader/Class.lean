import SecretFlow.Pattern.Reader.Escape

set_option autoImplicit false
set_option relaxedAutoImplicit false

/-!
Bracketed classes in the text of a pattern. Classes stand in classes, so those that are open are
kept as a list, the innermost first.
-/

namespace SecretFlow.Pattern

open Text (CharRanges)

def latinClass? (name : String) : Option CharRanges :=
  match name with
  | "alnum" => some (CharRanges.ofText "30-39 41-5A 61-7A")
  | "alpha" => some (CharRanges.ofText "41-5A 61-7A")
  | "ascii" => some (CharRanges.ofText "0-7F")
  | "blank" => some (CharRanges.ofText "9 20")
  | "cntrl" => some (CharRanges.ofText "0-1F 7F")
  | "digit" => some (CharRanges.ofText "30-39")
  | "graph" => some (CharRanges.ofText "21-7E")
  | "lower" => some (CharRanges.ofText "61-7A")
  | "print" => some (CharRanges.ofText "20-7E")
  | "punct" => some (CharRanges.ofText "21-2F 3A-40 5B-60 7B-7E")
  | "space" => some (CharRanges.ofText "9-D 20")
  | "upper" => some (CharRanges.ofText "41-5A")
  | "word" => some (CharRanges.ofText "30-39 41-5A 5F 61-7A")
  | "xdigit" => some (CharRanges.ofText "30-39 41-46 61-66")
  | _ => none

/-- A class such as `[:alpha:]` or `[:^alpha:]` after its opening bracket. -/
private def latinClassAt? (s : List Char) : Option (ClassSet × List Char) :=
  match s with
  | ':' :: rest =>
      let negated := rest.head? = some '^'
      let body := if negated then rest.drop 1 else rest
      let name := body.takeWhile (· ≠ ':')
      match body.drop name.length, latinClass? (String.ofList name) with
      | ':' :: ']' :: after, some set => some (.latin set negated, after)
      | _, _ => none
  | _ => none

/-- A class that is open: whether it is negated, an operation whose right side is being read, and
the items of that side, the last first. -/
private structure OpenClass where
  negated : Bool
  pending : Option (SetOperation × ClassSet) := none
  items : List ClassSet := []

private def OpenClass.push (c : OpenClass) (item : ClassSet) : OpenClass :=
  { c with items := item :: c.items }

/-- What has been read of a class as one set. Operations are taken from the left. -/
private def OpenClass.body (c : OpenClass) : ClassSet :=
  let side := ClassSet.ofItems c.items.reverse
  match c.pending with
  | some (op, left) => .operation op left side
  | none => side

private def literalItem (c : Char) : ClassSet :=
  .literal ⟨c, false⟩

private def readHyphens (verbose : Bool) : Nat → OpenClass → List Char → OpenClass × List Char
  | 0, c, s => (c, s)
  | turns + 1, c, s =>
      match s with
      | '-' :: rest => readHyphens verbose turns (c.push (literalItem '-')) (skipSpace verbose rest)
      | _ => (c, s)

/-- The start of a class after its opening bracket. A closing bracket that comes first stands for
itself. -/
private def openClass (verbose : Bool) (s : List Char) : OpenClass × List Char :=
  let s := skipSpace verbose s
  let negated := s.head? = some '^'
  let s := if negated then skipSpace verbose (s.drop 1) else s
  let (c, s) := readHyphens verbose s.length { negated } s
  match s with
  | ']' :: rest =>
      if c.items.isEmpty then (c.push (literalItem ']'), skipSpace verbose rest) else (c, s)
  | _ => (c, s)

private def readItem (verbose : Bool) (s : List Char) : Read ClassSet :=
  match s with
  | [] => .error .unclosedClass
  | '\\' :: rest =>
      match readEscape verbose rest with
      | .ok (.literal l, after) => .ok (.literal l, after)
      | .ok (.short kind negated, after) => .ok (.short kind negated, after)
      | .ok (.property name negated, after) => .ok (.property name negated, after)
      | .ok (.assertion _, _) => .error .classItem
      | .error e => .error e
  | c :: rest => .ok (literalItem c, rest)

/-- The last item of a range whose first one has been read. -/
private def readRangeEnd (verbose : Bool) (first : ClassSet) (s : List Char) : Read ClassSet :=
  match readItem verbose (skipSpace verbose s) with
  | .ok (last, after) =>
      match first, last with
      | .literal a, .literal b =>
          if a.char ≤ b.char then .ok (.range a b, after) else .error .classRange
      | _, _ => .error .classRange
  | .error e => .error e

/-- An item or a range of a class. A hyphen before a closing bracket or another hyphen makes no
range. -/
private def readRange (verbose : Bool) (s : List Char) : Read ClassSet :=
  match readItem verbose s with
  | .error e => .error e
  | .ok (first, rest) =>
      match skipSpace verbose rest with
      | [] => .error .unclosedClass
      | '-' :: after =>
          let next := peekSpace verbose after
          if next = some ']' || next = some '-' then .ok (first, '-' :: after)
          else readRangeEnd verbose first after
      | s => .ok (first, s)

private def operation? : List Char → Option (SetOperation × List Char)
  | '&' :: '&' :: rest => some (.intersection, rest)
  | '-' :: '-' :: rest => some (.difference, rest)
  | '~' :: '~' :: rest => some (.symmetricDifference, rest)
  | _ => none

/-- Items of the innermost class and of those around it, up to the end of the outermost one. Each
turn takes a character, so as many turns as characters suffice. -/
private def readItems (verbose : Bool) : Nat → OpenClass → List OpenClass → List Char →
    Read (ClassSet × Bool)
  | 0, _, _, _ => .error .unclosedClass
  | turns + 1, inner, outer, s =>
      let s := skipSpace verbose s
      match s with
      | [] => .error .unclosedClass
      | ']' :: rest =>
          match outer with
          | [] => .ok ((inner.body, inner.negated), rest)
          | around :: outer =>
              let item := .bracketed inner.body inner.negated
              readItems verbose turns (around.push item) outer rest
      | '[' :: rest =>
          match latinClassAt? rest with
          | some (item, after) => readItems verbose turns (inner.push item) outer after
          | none =>
              let (opened, after) := openClass verbose rest
              readItems verbose turns opened (inner :: outer) after
      | _ =>
          match operation? s with
          | some (op, rest) =>
              readItems verbose turns ⟨inner.negated, some (op, inner.body), []⟩ outer rest
          | none =>
              match readRange verbose s with
              | .ok (item, after) => readItems verbose turns (inner.push item) outer after
              | .error e => .error e

/-- A class after its opening bracket: what is in it, and whether it is negated. -/
def readClass (verbose : Bool) (s : List Char) : Read (ClassSet × Bool) :=
  let (opened, rest) := openClass verbose s
  readItems verbose (s.length + 1) opened [] rest

end SecretFlow.Pattern
