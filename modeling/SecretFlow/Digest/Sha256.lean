set_option autoImplicit false
set_option relaxedAutoImplicit false

/-!
The digest SHA-256 of bytes, and its text.
-/

namespace SecretFlow.Digest

/-- Constants of the rounds: fractional parts of the cube roots of the first primes. -/
def roundConstants : List UInt32 :=
  [0x428a2f98, 0x71374491, 0xb5c0fbcf, 0xe9b5dba5, 0x3956c25b, 0x59f111f1, 0x923f82a4, 0xab1c5ed5,
   0xd807aa98, 0x12835b01, 0x243185be, 0x550c7dc3, 0x72be5d74, 0x80deb1fe, 0x9bdc06a7, 0xc19bf174,
   0xe49b69c1, 0xefbe4786, 0x0fc19dc6, 0x240ca1cc, 0x2de92c6f, 0x4a7484aa, 0x5cb0a9dc, 0x76f988da,
   0x983e5152, 0xa831c66d, 0xb00327c8, 0xbf597fc7, 0xc6e00bf3, 0xd5a79147, 0x06ca6351, 0x14292967,
   0x27b70a85, 0x2e1b2138, 0x4d2c6dfc, 0x53380d13, 0x650a7354, 0x766a0abb, 0x81c2c92e, 0x92722c85,
   0xa2bfe8a1, 0xa81a664b, 0xc24b8b70, 0xc76c51a3, 0xd192e819, 0xd6990624, 0xf40e3585, 0x106aa070,
   0x19a4c116, 0x1e376c08, 0x2748774c, 0x34b0bcb5, 0x391c0cb3, 0x4ed8aa4a, 0x5b9cca4f, 0x682e6ff3,
   0x748f82ee, 0x78a5636f, 0x84c87814, 0x8cc70208, 0x90befffa, 0xa4506ceb, 0xbef9a3f7, 0xc67178f2]

structure Chain where
  a : UInt32
  b : UInt32
  c : UInt32
  d : UInt32
  e : UInt32
  f : UInt32
  g : UInt32
  h : UInt32
  deriving DecidableEq, Repr

/-- The chain before the first block: fractional parts of the square roots of the first primes. -/
def Chain.initial : Chain :=
  ⟨0x6a09e667, 0xbb67ae85, 0x3c6ef372, 0xa54ff53a, 0x510e527f, 0x9b05688c, 0x1f83d9ab, 0x5be0cd19⟩

private def rotate (x : UInt32) (n : UInt32) : UInt32 :=
  (x >>> n) ||| (x <<< (32 - n))

private def Chain.round (s : Chain) (k w : UInt32) : Chain :=
  let s1 := rotate s.e 6 ^^^ rotate s.e 11 ^^^ rotate s.e 25
  let choice := (s.e &&& s.f) ^^^ ((~~~ s.e) &&& s.g)
  let t1 := s.h + s1 + choice + k + w
  let s0 := rotate s.a 2 ^^^ rotate s.a 13 ^^^ rotate s.a 22
  let majority := (s.a &&& s.b) ^^^ (s.a &&& s.c) ^^^ (s.b &&& s.c)
  ⟨t1 + s0 + majority, s.a, s.b, s.c, s.d + t1, s.e, s.f, s.g⟩

private def Chain.add (s t : Chain) : Chain :=
  ⟨s.a + t.a, s.b + t.b, s.c + t.c, s.d + t.d, s.e + t.e, s.f + t.f, s.g + t.g, s.h + t.h⟩

/-- Extend a block of sixteen words by the next words of its schedule. -/
private def extend : Nat → Array UInt32 → Array UInt32
  | 0, ws => ws
  | n + 1, ws =>
      let back (i : Nat) : UInt32 := ws.getD (ws.size - i) 0
      let s0 := rotate (back 15) 7 ^^^ rotate (back 15) 18 ^^^ (back 15 >>> 3)
      let s1 := rotate (back 2) 17 ^^^ rotate (back 2) 19 ^^^ (back 2 >>> 10)
      extend n (ws.push (back 16 + s0 + back 7 + s1))

private def Chain.absorb (s : Chain) (block : List UInt32) : Chain :=
  let schedule := (extend 48 block.toArray).toList
  s.add ((roundConstants.zip schedule).foldl (fun t kw => t.round kw.1 kw.2) s)

/-- The message with a one bit, zeros and its length, in whole blocks. -/
def pad (bytes : List UInt8) : List UInt8 :=
  let size := bytes.length
  let zeros := (119 - size % 64) % 64
  let bits := size * 8
  bytes ++ [0x80] ++ List.replicate zeros 0 ++
    ((List.range 8).map fun i => UInt8.ofNat (bits / Nat.pow 256 (7 - i)))

private def words (acc : List UInt32) : List UInt8 → List UInt32
  | a :: b :: c :: d :: rest =>
      let w := (a.toUInt32 <<< 24) ||| (b.toUInt32 <<< 16) ||| (c.toUInt32 <<< 8) ||| d.toUInt32
      words (w :: acc) rest
  | _ => acc.reverse

private def absorbAll : Nat → Chain → List UInt32 → Chain
  | 0, s, _ => s
  | blocks + 1, s, ws => absorbAll blocks (s.absorb (ws.take 16)) (ws.drop 16)

def sha256 (bytes : List UInt8) : Chain :=
  let ws := words [] (pad bytes)
  absorbAll (ws.length / 16) .initial ws

private def hexWord (w : UInt32) : String :=
  let digits := Nat.toDigits 16 w.toNat
  String.ofList (List.replicate (8 - digits.length) '0' ++ digits)

def sha256Text (bytes : List UInt8) : String :=
  let s := sha256 bytes
  String.join ([s.a, s.b, s.c, s.d, s.e, s.f, s.g, s.h].map hexWord)

end SecretFlow.Digest
