set_option autoImplicit false
set_option relaxedAutoImplicit false

/-!
Sets of code points given by ascending ranges, written as hexadecimal text, and tables of such sets
by name.
-/

namespace SecretFlow.Text

structure CharRanges where
  ranges : Array (Nat × Nat)
  deriving DecidableEq, Repr

namespace CharRanges

def hexDigit? (c : Char) : Option Nat :=
  if '0' ≤ c ∧ c ≤ '9' then some (c.toNat - '0'.toNat)
  else if 'a' ≤ c ∧ c ≤ 'f' then some (c.toNat - 'a'.toNat + 10)
  else if 'A' ≤ c ∧ c ≤ 'F' then some (c.toNat - 'A'.toNat + 10)
  else none

def hexValue (s : List Char) : Nat :=
  s.foldl (fun n c => n * 16 + (hexDigit? c).getD 0) 0

private def range? (item : List Char) : Option (Nat × Nat) :=
  match List.splitOn '-' item with
  | [[]] => none
  | [a] => some (hexValue a, hexValue a)
  | a :: b :: _ => some (hexValue a, hexValue b)
  | [] => none

/-- Read ranges such as `41-5A 5F`, parted by blanks or line feeds. -/
def ofText (text : String) : CharRanges :=
  let items := List.splitOn ' ' (text.toList.map fun c => if c = '\n' then ' ' else c)
  ⟨(items.filterMap range?).toArray⟩

private def search (t : Array (Nat × Nat)) (n lo hi : Nat) : Bool :=
  if lo < hi then
    let mid := (lo + hi) / 2
    match t[mid]? with
    | none => false
    | some (a, b) =>
        if n < a then search t n lo mid
        else if b < n then search t n (mid + 1) hi
        else true
  else false
termination_by hi - lo

def contains (t : CharRanges) (c : Char) : Bool :=
  search t.ranges c.toNat 0 t.ranges.size

end CharRanges

namespace Property

/-- Sets by name. The names of a set are parted by blanks, and its ranges are written as text. -/
abbrev NamedSets := List (String × String)

def NamedSets.named? (sets : NamedSets) (name : String) : Option CharRanges :=
  (List.find? (fun e => (e.1.toList.splitOn ' ').contains name.toList) sets).map fun e =>
    CharRanges.ofText e.2

end Property

end SecretFlow.Text
