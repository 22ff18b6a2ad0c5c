set_option autoImplicit false
set_option relaxedAutoImplicit false

/-!
Binary floating-point numbers of 64 bits, as exact values: a decimal numeral is rounded to the
nearest one, ties to the even neighbour.
-/

namespace SecretFlow.Decimal

/-- A binary64 number; a finite one is `±mantissa * 2 ^ exponent`. -/
inductive Binary64 where
  | finite (negative : Bool) (mantissa : Nat) (exponent : Int)
  | infinite (negative : Bool)
  | nan
  deriving DecidableEq, Repr

/-- The quotient of two natural numbers rounded to the nearest, ties to even. -/
def roundDiv (num den : Nat) : Nat :=
  let q := num / den
  let r := num % den
  if 2 * r < den then q
  else if den < 2 * r then q + 1
  else if q % 2 = 0 then q else q + 1

/-- `num * base ^ k / den` with a sign of `k`, as numerator and denominator. -/
def scale (base num den : Nat) (k : Int) : Nat × Nat :=
  if 0 ≤ k then (num * base.pow k.toNat, den) else (num, den * base.pow (-k).toNat)

/-- The greatest `e` with `2 ^ e ≤ num / den`, for positive numbers. -/
def floorLog2 (num den : Nat) : Int :=
  let e : Int := (num.log2 : Int) - (den.log2 : Int)
  let (n, d) := scale 2 num den (-e)
  if d ≤ n then e else e - 1

def minExponent : Int := -1074

def maxExponent : Int := 971

def Binary64.ofRational (negative : Bool) (num den : Nat) : Binary64 :=
  if num = 0 then .finite negative 0 0
  else
    let q := max minExponent (floorLog2 num den - 52)
    let (n, d) := scale 2 num den (-q)
    let m := roundDiv n d
    let (m, q) := if m = Nat.pow 2 53 then (Nat.pow 2 52, q + 1) else (m, q)
    if m = 0 then .finite negative 0 0
    else if maxExponent < q then .infinite negative
    else .finite negative m q

/-- The number nearest to `digits * 10 ^ exponent`, for a numeral of the given number of digits.
Numerals far outside the range are not expanded. -/
def Binary64.ofDecimal (negative : Bool) (digits : Nat) (exponent : Int) : Binary64 :=
  let size := (Nat.toDigits 10 digits).length
  if digits = 0 then .finite negative 0 0
  else if 400 < (size : Int) + exponent then .infinite negative
  else if (size : Int) + exponent < -400 then .finite negative 0 0
  else
    let (n, d) := scale 10 digits 1 exponent
    .ofRational negative n d

/-- Whether the number is neither infinite nor undefined. -/
def Binary64.isFinite : Binary64 → Bool
  | .finite _ _ _ => true
  | _ => false

end SecretFlow.Decimal
