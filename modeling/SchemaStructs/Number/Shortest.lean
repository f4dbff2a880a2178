import SchemaStructs.Number.Binary

/-!
# Shortest decimal of a number

The decimal text of a floating-point number: the fewest significant digits that read back as the
same number, and of those the nearest to it.  The digits are written positionally while the
decimal exponent is at least `-4` and below `16`, with an exponent of at least two digits beyond.
-/

namespace SchemaStructs

namespace Binary

/-- A positive number `num / den` and the open interval of half width `below` and `above` (over
`den` too) in which every number rounds to it; `closed` says that the ends do as well. -/
structure Neighbourhood where
  /-- Numerator of the number. -/
  num : Nat
  /-- Common denominator. -/
  den : Nat
  /-- Distance to the lower end. -/
  below : Nat
  /-- Distance to the upper end. -/
  above : Nat
  /-- The ends belong to the interval. -/
  closed : Bool

/-- The numbers that round to `m * 2 ^ e`. -/
def neighbourhood (m : Nat) (e : Int) : Neighbourhood :=
  let up := if 0 ≤ e then power 2 e.toNat else 1
  let down := if 0 ≤ e then 1 else power 2 (-e).toNat
  -- the next lower number is only half as far away at a power of two
  let below := if m = power 2 (precision - 1) ∧ minExponent < e then 1 else 2
  { num := 4 * m * up, den := 4 * down, below := below * up, above := 2 * up,
    closed := m % 2 = 0 }

/-- The fraction `n / d` lies in the interval. -/
def Neighbourhood.contains (v : Neighbourhood) (n d : Nat) : Bool :=
  let x := n * v.den
  let low := (v.num - v.below) * d
  let high := (v.num + v.above) * d
  if v.closed then low ≤ x && x ≤ high else low < x && x < high

/-- The exponent of the first decimal digit of `num / den`. -/
def decimalExponent (num den : Nat) : Int :=
  if den ≤ num then (Text.ofNat (num / den)).length - 1
  else go 400 1
where
  /-- Counts the places up to the first digit that is not zero. -/
  go : Nat → Nat → Int
    | 0, places => -places
    | fuel + 1, places => if den ≤ num * power 10 places then -places else go fuel (places + 1)

/-- The nearest decimal of `count` digits to the number that reads back as it, if there is one.
The result is the digits as a number, with the first digit standing for `10 ^ first`. -/
def digitsOn (v : Neighbourhood) (first : Int) (count : Nat) : Option Nat :=
  let place : Int := first - count + 1
  let (up, down) := if 0 ≤ place then (power 10 place.toNat, 1) else (1, power 10 (-place).toNat)
  -- the number measured in units of the last place
  let n := v.num * down
  let d := v.den * up
  let floor := n / d
  let hits (k : Nat) : Bool := v.contains (k * up) down
  match hits floor, hits (floor + 1) with
  | true, true => some (divHalfEven n d)
  | true, false => some floor
  | false, true => some (floor + 1)
  | false, false => none

/-- The shortest digits of the number and the exponent of the first one. -/
def shortestDigits (m : Nat) (e : Int) : Text × Int :=
  let v := neighbourhood m e
  let first := decimalExponent v.num v.den
  let digits := ((List.range 17).findSome? fun k => digitsOn v first (k + 1)).getD 0
  let count := ((List.range 17).find? fun k => (digitsOn v first (k + 1)).isSome).getD 16 + 1
  let t := Text.ofNat digits
  -- rounding up may have carried into a new first digit
  let first := first + (t.length - count : Nat)
  let kept := (t.reverse.dropWhile (· == '0')).reverse
  (kept, first)

/-- The digits with a point after the digit that stands for the units. -/
def positional (digits : Text) (first : Int) : Text :=
  if first < 0 then "0." ++ List.replicate ((-first).toNat - 1) '0' ++ digits
  else
    let whole := first.toNat + 1
    if digits.length ≤ whole then
      digits ++ List.replicate (whole - digits.length) '0' ++ ".0"
    else digits.take whole ++ "." ++ digits.drop whole

/-- The digits with a point after the first one and an exponent. -/
def scientific (digits : Text) (first : Int) : Text :=
  let point : Text := if 1 < digits.length then "." else ""
  let sign : Text := if first < 0 then "-" else "+"
  let e := Text.ofNat first.natAbs
  digits.take 1 ++ point ++ digits.drop 1 ++ "e" ++ sign
    ++ List.replicate (2 - e.length) '0' ++ e

/-- The text of a number. -/
def render : Binary → Text
  | .nan => "nan"
  | .infinite negative => if negative then "-inf" else "inf"
  | .finite negative m e =>
    let sign : Text := if negative then "-" else ""
    if m = 0 then sign ++ "0.0"
    else
      let (digits, first) := shortestDigits m e
      sign ++ if -4 ≤ first ∧ first < 16 then positional digits first else scientific digits first

end Binary

end SchemaStructs
