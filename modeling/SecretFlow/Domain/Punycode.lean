set_option autoImplicit false
set_option relaxedAutoImplicit false

/-!
Punycode: texts outside ASCII in letters, digits and hyphens. The ASCII characters come first; then
each other character, in ascending order, is a number that says how far on it is to be put in. Its
digits have a base of 36, with thresholds that adapt to the numbers before.
-/

namespace SecretFlow.Domain.Punycode

/-- The character of a digit: letters, then the ten figures. -/
def digitChar (d : Nat) : Char :=
  if d < 26 then Char.ofNat (97 + d) else Char.ofNat (22 + d)

def digitValue? (c : Char) : Option Nat :=
  if 'a' ≤ c && c ≤ 'z' then some (c.toNat - 97)
  else if 'A' ≤ c && c ≤ 'Z' then some (c.toNat - 65)
  else if '0' ≤ c && c ≤ '9' then some (c.toNat - 22)
  else none

def threshold (k bias : Nat) : Nat :=
  if k ≤ bias then 1 else if bias + 26 ≤ k then 26 else k - bias

theorem threshold_pos (k bias : Nat) : 0 < threshold k bias := by
  unfold threshold
  split
  · omega
  · split <;> omega

private def reduce (delta k : Nat) : Nat × Nat :=
  if 455 < delta then reduce (delta / 35) (k + 36) else (delta, k)
termination_by delta
decreasing_by exact Nat.div_lt_self (by omega) (by omega)

/-- The bias after a number, which is damped if it is the first one. -/
def adapt (delta count : Nat) (first : Bool) : Nat :=
  let halved := if first then delta / 700 else delta / 2
  let (rest, k) := reduce (halved + halved / count) 0
  k + 36 * rest / (rest + 38)

def writeNumber (bias k n : Nat) : List Char :=
  let t := threshold k bias
  if n < t then [digitChar n]
  else digitChar (t + (n - t) % (36 - t)) :: writeNumber bias (k + 36) ((n - t) / (36 - t))
termination_by n
decreasing_by
  have hpos := threshold_pos k bias
  have hle := Nat.div_le_self (n - threshold k bias) (36 - threshold k bias)
  omega

private structure Writing where
  digits : List Char := []
  delta : Nat := 0
  bias : Nat := 72
  count : Nat

/-- Go past a character: one that is put in already counts, and the one to put in is written. -/
private def Writing.pass (basic n : Nat) (w : Writing) (c : Char) : Writing :=
  if c.toNat < n then { w with delta := w.delta + 1 }
  else if c.toNat = n then
    { digits := w.digits ++ writeNumber w.bias 36 w.delta
      delta := 0
      bias := adapt w.delta (w.count + 1) (w.count = basic)
      count := w.count + 1 }
  else w

/-- Put in all characters of the given code points, in ascending order, from a code point on. -/
private def Writing.putAll (text : List Char) (basic : Nat) : List Nat → Nat → Writing → Writing
  | [], _, w => w
  | n :: rest, start, w =>
      let moved := { w with delta := w.delta + (n - start) * (w.count + 1) }
      let passed := text.foldl (Writing.pass basic n) moved
      Writing.putAll text basic rest (n + 1) { passed with delta := passed.delta + 1 }

def longestText : Nat := 1000

def longestCode : Nat := 2000

def numberBound : Nat := 4294967296

def encode (text : List Char) : List Char :=
  let basic := text.filter (·.toNat < 0x80)
  let others := (((text.map Char.toNat).filter (0x80 ≤ ·)).mergeSort (· ≤ ·)).eraseDups
  let written := Writing.putAll text basic.length others 0x80 { count := basic.length }
  basic ++ (if basic.isEmpty then [] else ['-']) ++ written.digits

/-- A text in Punycode, unless it is too long. -/
def encode? (text : List Char) : Option (List Char) :=
  if text.length ≤ longestText then some (encode text) else none

private def readNumber (bias : Nat) : Nat → Nat → Nat → List Char → Option (Nat × List Char)
  | _, _, _, [] => none
  | k, weight, n, c :: rest =>
      match digitValue? c with
      | none => none
      | some d =>
          let t := threshold k bias
          if numberBound ≤ n + d * weight then none
          else if d < t then some (n + d * weight, rest)
          else if numberBound ≤ weight * (36 - t) then none
          else readNumber bias (k + 36) (weight * (36 - t)) (n + d * weight) rest

/-- Put characters into a text, each given by a number, up to a number of times. -/
private def readAll : Nat → List Char → Nat → Nat → Nat → List Char → Option (List Char)
  | _, text, _, _, _, [] => some text
  | 0, _, _, _, _, _ :: _ => none
  | fuel + 1, text, n, i, bias, s =>
      match readNumber bias 36 1 i s with
      | none => none
      | some (j, rest) =>
          let count := text.length + 1
          let point := n + j / count
          if Nat.isValidChar point then
            let place := j % count
            readAll fuel (text.take place ++ Char.ofNat point :: text.drop place) point
              (place + 1) (adapt (j - i) count (i = 0)) rest
          else none

/-- The text of Punycode, if it is one and not too long. -/
def decode? (s : List Char) : Option (List Char) :=
  let reversed := s.reverse
  let ending := (reversed.takeWhile (· ≠ '-')).reverse
  if longestCode < s.length then none
  else
    match (reversed.dropWhile (· ≠ '-')).reverse.dropLast with
    | [] => readAll s.length [] 0x80 0 72 s
    | basic => if basic.all (·.toNat < 0x80) then readAll s.length basic 0x80 0 72 ending else none

end SecretFlow.Domain.Punycode
