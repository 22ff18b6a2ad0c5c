set_option autoImplicit false
set_option relaxedAutoImplicit false

/-!
Ranges of characters as ranges of the bytes that they are written with. A range is cut until the
bytes at each place can be chosen independently.
-/

namespace SecretFlow.Automaton

def bytesOfPoint (n : Nat) : List UInt8 :=
  if n < 0x80 then [n.toUInt8]
  else if n < 0x800 then [(0xC0 + n / 0x40).toUInt8, (0x80 + n % 0x40).toUInt8]
  else if n < 0x10000 then
    [(0xE0 + n / 0x1000).toUInt8, (0x80 + n / 0x40 % 0x40).toUInt8, (0x80 + n % 0x40).toUInt8]
  else
    [(0xF0 + n / 0x40000).toUInt8, (0x80 + n / 0x1000 % 0x40).toUInt8,
      (0x80 + n / 0x40 % 0x40).toUInt8, (0x80 + n % 0x40).toUInt8]

/-- The last code point of a range that is to be cut off: characters of the range are written with
different numbers of bytes, or bytes up to a place differ while those after it are not free. -/
private def cut? (first last : Nat) : Option Nat :=
  let byLength := [0x7F, 0x7FF, 0xFFFF].find? fun n => first ≤ n && n < last
  if byLength.isSome || last < 0x80 then byLength
  else
    [0x40, 0x1000, 0x40000].findSome? fun size =>
      if first / size = last / size then none
      else if first % size ≠ 0 then some (first / size * size + (size - 1))
      else if last % size ≠ size - 1 then some (last / size * size - 1)
      else none

abbrev ByteRanges := List (UInt8 × UInt8)

def byteRanges (first last : Nat) : List ByteRanges :=
  match cut? first last with
  | some n =>
      if first ≤ n ∧ n < last then byteRanges first n ++ byteRanges (n + 1) last
      else [(bytesOfPoint first).zip (bytesOfPoint last)]
  | none => [(bytesOfPoint first).zip (bytesOfPoint last)]
termination_by last - first

end SecretFlow.Automaton
