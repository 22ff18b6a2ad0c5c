set_option autoImplicit false
set_option relaxedAutoImplicit false

/-!
Text of bytes. Bytes that are not UTF-8 read as replacement characters, one for each longest
start of a character that does not go on.
-/

namespace SecretFlow.Text.Utf8

abbrev Bytes := List UInt8

/-- How many bytes follow a first byte, if it starts a character of several. -/
def followers? (lead : UInt8) : Option Nat :=
  if 0xC2 ≤ lead && lead ≤ 0xDF then some 1
  else if 0xE0 ≤ lead && lead ≤ 0xEF then some 2
  else if 0xF0 ≤ lead && lead ≤ 0xF4 then some 3
  else none

def mayFollow (lead b : UInt8) : Bool :=
  if lead = 0xE0 then 0xA0 ≤ b && b ≤ 0xBF
  else if lead = 0xED then 0x80 ≤ b && b ≤ 0x9F
  else if lead = 0xF0 then 0x90 ≤ b && b ≤ 0xBF
  else if lead = 0xF4 then 0x80 ≤ b && b ≤ 0x8F
  else 0x80 ≤ b && b ≤ 0xBF

/-- The state between bytes: the characters read, last first, and a character that is not
complete: its first byte, the number of bytes after it, how many are still to come, and the bits
so far. -/
structure State where
  read : List Char := []
  pending : Option (UInt8 × Nat × Nat × Nat) := none

private def replacement : Char := Char.ofNat 0xFFFD

private def start (read : List Char) (b : UInt8) : State :=
  if b < 0x80 then { read := Char.ofNat b.toNat :: read }
  else
    match followers? b with
    | none => { read := replacement :: read }
    | some n =>
        let bits := b.toNat % Nat.pow 2 (6 - n)
        { read, pending := some (b, 0, n, bits) }

def step (s : State) (b : UInt8) : State :=
  match s.pending with
  | none => start s.read b
  | some (lead, seen, left, bits) =>
      let fits := if seen = 0 then mayFollow lead b else 0x80 ≤ b && b ≤ 0xBF
      if fits then
        let bits := bits * 64 + b.toNat % 64
        if left ≤ 1 then { read := Char.ofNat bits :: s.read }
        else { s with pending := some (lead, seen + 1, left - 1, bits) }
      else start (replacement :: s.read) b

def decode (bytes : Bytes) : List Char :=
  let s := bytes.foldl step {}
  (match s.pending with
    | none => s.read
    | some _ => replacement :: s.read).reverse

def isValid (bytes : Bytes) : Bool :=
  (String.fromUTF8? ⟨bytes.toArray⟩).isSome

def encode (text : String) : Bytes :=
  text.toUTF8.toList

end SecretFlow.Text.Utf8
