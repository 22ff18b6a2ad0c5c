import SecretFlow.Decimal.Binary64

set_option autoImplicit false
set_option relaxedAutoImplicit false

/-!
The shortest decimal that reads back as a given binary64 number, and its text.
-/

namespace SecretFlow.Decimal

/-- Compare `a * 10 ^ s` with `b * 2 ^ t`. -/
def compareScaled (a : Nat) (s : Int) (b : Nat) (t : Int) : Ordering :=
  let (n, d) := scale 10 a 1 s
  let (m, e) := scale 2 b 1 t
  compare (n * e) (m * d)

/-- Whether `c * 10 ^ t` is rounded to `m * 2 ^ q`: it lies between the midpoints to the two
neighbours, which belong to the number if its mantissa is even. -/
def readsBack (m : Nat) (q : Int) (c : Nat) (t : Int) : Bool :=
  let low := if m = Nat.pow 2 52 && minExponent < q then 4 * m - 1 else 4 * m - 2
  let high := 4 * m + 2
  let fromLow := compareScaled c t low (q - 2)
  let fromHigh := compareScaled c t high (q - 2)
  if m % 2 = 0 then fromLow ≠ .lt && fromHigh ≠ .gt else fromLow = .gt && fromHigh = .lt

/-- The greatest `e` with `10 ^ e ≤ m * 2 ^ q`, found by a few steps from an estimate. -/
def floorLog10 (m : Nat) (q : Int) : Int :=
  let bits : Int := (m.log2 : Int) + q
  let estimate : Int := bits * 30103 / 100000
  [2, 1, 0, -1].foldl (fun best step =>
    let e := estimate + step
    if best.isSome then best
    else if compareScaled 1 e m q ≠ .gt then some e else none) none |>.getD (estimate - 2)

/-- The decimal of a number of digits nearest to the value that reads back, ties to even. -/
def nearest? (m : Nat) (q : Int) (places : Nat) : Option (Nat × Int) :=
  let t := floorLog10 m q - (places : Int) + 1
  let (n, d) := scale 2 m 1 q
  let (n, d) := scale 10 n d (-t)
  let low := n / d
  let lowFits := 0 < low && readsBack m q low t
  let highFits := readsBack m q (low + 1) t
  if lowFits && highFits then some (roundDiv n d, t)
  else if lowFits then some (low, t)
  else if highFits then some (low + 1, t)
  else none

def stripZeros : Nat → Nat → Int → Nat × Int
  | 0, c, t => (c, t)
  | turns + 1, c, t => if c ≠ 0 && c % 10 = 0 then stripZeros turns (c / 10) (t + 1) else (c, t)

/-- Digits and exponent of the shortest decimal that reads back as `m * 2 ^ q`. -/
def shortest (m : Nat) (q : Int) : Nat × Int :=
  let found := (List.range 17).findSome? fun k => nearest? m q (k + 1)
  let (c, t) := found.getD (0, 0)
  stripZeros 20 c t

/-- Digits with a point, or with an exponent if the point would stand more than sixteen places
after the first digit or more than five zeros before it. -/
def writeDecimal (digits : Nat) (exponent : Int) : String :=
  let text := (Nat.repr digits).toList
  let size : Int := text.length
  let point := size + exponent
  if 0 ≤ exponent && point ≤ 16 then
    String.ofList (text ++ List.replicate exponent.toNat '0' ++ ['.', '0'])
  else if 0 < point && point ≤ 16 then
    String.ofList (text.take point.toNat ++ ['.'] ++ text.drop point.toNat)
  else if -5 < point && point ≤ 0 then
    String.ofList (['0', '.'] ++ List.replicate (-point).toNat '0' ++ text)
  else if text.length = 1 then
    String.ofList text ++ "e" ++ toString (point - 1)
  else
    String.ofList (text.take 1 ++ ['.'] ++ text.drop 1) ++ "e" ++ toString (point - 1)

def Binary64.text : Binary64 → String
  | .nan => ".nan"
  | .infinite negative => if negative then "-.inf" else ".inf"
  | .finite negative m q =>
      let sign := if negative then "-" else ""
      if m = 0 then sign ++ "0.0"
      else
        let (c, t) := shortest m q
        sign ++ writeDecimal c t

end SecretFlow.Decimal
