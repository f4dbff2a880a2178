import SchemaStructs.Text.Basic

/-!
# Binary floating-point numbers

Numbers of double precision as exact values: a significand below `2 ^ 53` times a power of two.
`Binary.ofDecimal` rounds a decimal to the nearest such number, ties to an even significand.
-/

namespace SchemaStructs

/-- A number of double precision. -/
inductive Binary where
  /-- The value `± significand * 2 ^ exponent`. -/
  | finite (negative : Bool) (significand : Nat) (exponent : Int)
  /-- An infinity. -/
  | infinite (negative : Bool)
  /-- Not a number. -/
  | nan
  deriving DecidableEq, Repr, Inhabited

namespace Binary

/-- A power of a natural number. -/
def power (base n : Nat) : Nat := Nat.pow base n

/-- The number of bits of a significand. -/
def precision : Nat := 53

/-- The least exponent, that of the numbers nearest to zero. -/
def minExponent : Int := -1074

/-- The greatest exponent. -/
def maxExponent : Int := 971

/-- The quotient rounded to the nearest integer, ties to the even one. -/
def divHalfEven (num den : Nat) : Nat :=
  let q := num / den
  let r := num % den
  if 2 * r < den then q
  else if 2 * r > den then q + 1
  else if q % 2 = 0 then q else q + 1

/-- The fraction `num / den` divided by `2 ^ e`, as a fraction. -/
def scale (num den : Nat) (e : Int) : Nat × Nat :=
  if 0 ≤ e then (num, den * power 2 e.toNat) else (num * power 2 (-e).toNat, den)

/-- The number nearest to the positive fraction `num / den`. -/
def ofFraction (negative : Bool) (num den : Nat) : Binary :=
  let guess : Int := (num.log2 : Int) - den.log2 - precision
  let fits (e : Int) : Bool :=
    let (n, d) := scale num den e
    n < power 2 precision * d
  let least := if fits guess then guess else guess + 1
  let exponent := if least < minExponent then minExponent else least
  let (n, d) := scale num den exponent
  let m := divHalfEven n d
  let (m, exponent) := if m = power 2 precision then (power 2 (precision - 1), exponent + 1)
    else (m, exponent)
  if maxExponent < exponent then .infinite negative else .finite negative m exponent

/-- The number nearest to `digits * 10 ^ exponent`. -/
def ofDecimal (negative : Bool) (digits : Nat) (exponent : Int) : Binary :=
  let size : Int := (Text.ofNat digits).length + exponent
  if digits = 0 ∨ size < -330 then .finite negative 0 minExponent
  else if 310 < size then .infinite negative
  else if 0 ≤ exponent then ofFraction negative (digits * power 10 exponent.toNat) 1
  else ofFraction negative digits (power 10 (-exponent).toNat)

/-- The value is zero, of either sign. -/
def isZero : Binary → Bool
  | .finite _ m _ => m == 0
  | _ => false

/-- The value as an integer, if it is one. -/
def toInt? : Binary → Option Int
  | .finite negative m e =>
    let sign (n : Nat) : Int := if negative then -n else n
    if 0 ≤ e then some (sign (m * power 2 e.toNat))
    else if m % power 2 (-e).toNat = 0 then some (sign (m / power 2 (-e).toNat))
    else none
  | _ => none

end Binary

end SchemaStructs
