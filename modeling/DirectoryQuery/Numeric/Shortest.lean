/-
Module: DirectoryQuery.Numeric.Shortest
Purpose: The shortest decimal text that reads back as a given double precision number.
Main exports:
  Binary64.shortest, Binary64.text
-/
import DirectoryQuery.Numeric.Binary64

namespace DirectoryQuery.Numeric

namespace Binary64

/-!
The numbers that round to `significand · 2 ^ exponent` form an interval around it, which includes
its ends exactly if the significand is even.  Every end and the value itself are decimal numbers, so
over a common power of ten they are natural numbers.  For one digit, two digits and so on the two
neighbours of the value with so many digits are tried; the first that lie in the interval win.
-/

/-- The interval of the numbers that round to a value, over a common power of ten. -/
structure Interval where
  low : Nat
  value : Nat
  high : Nat
  closed : Bool
  scale : Int
deriving Repr, DecidableEq

/-- Whether a number over the power of ten of the interval lies in it. -/
def Interval.holds (interval : Interval) (n : Nat) : Bool :=
  if interval.closed then interval.low ≤ n && n ≤ interval.high
  else interval.low < n && n < interval.high

/-- The interval around a positive number.  Below a power of two the neighbours are half as far. -/
def interval (significand : Nat) (exponent : Int) : Interval :=
  let quarter := exponent - 2
  let factor := twoTo quarter.toNat * Nat.pow 5 (-quarter).toNat
  let gap := if significand = twoTo 52 ∧ leastExponent < exponent then 1 else 2
  { low := (4 * significand - gap) * factor
    value := 4 * significand * factor
    high := (4 * significand + 2) * factor
    closed := significand % 2 = 0
    scale := min quarter 0 }

/-- The numeral with `count` digits that is nearest to the value, if it lies in the interval.  Of
two that are equally near, the even one is taken. -/
def Interval.withDigits? (interval : Interval) (count : Nat) : Option (Nat × Int) :=
  let dropped := digitCount interval.value - count
  let unit := tenTo dropped
  let below := interval.value / unit
  let above := below + 1
  let scale := interval.scale + dropped
  match interval.holds (below * unit), interval.holds (above * unit) with
  | true, true =>
    let down := interval.value - below * unit
    let up := above * unit - interval.value
    if down < up ∨ (down = up ∧ below % 2 = 0) then some (below, scale) else some (above, scale)
  | true, false => some (below, scale)
  | false, true => some (above, scale)
  | false, false => none

/-- The fewest digits that read back, and the power of ten of the last one.  Seventeen digits always
read back. -/
def shortest (significand : Nat) (exponent : Int) : Nat × Int :=
  let around := interval significand exponent
  ((List.range 17).findSome? fun count => around.withDigits? (count + 1)).getD
    (around.value, around.scale)

/-- Digits with a point after the first `point` of them, filled up with zeros on either side. -/
def positional (digits : List Char) (point : Int) : List Char :=
  if point ≤ 0 then
    '0' :: '.' :: List.replicate (-point).toNat '0' ++ digits
  else if (digits.length : Int) ≤ point then
    digits ++ List.replicate (point.toNat - digits.length) '0' ++ ['.', '0']
  else
    digits.take point.toNat ++ '.' :: digits.drop point.toNat

/-- Digits with a point after the first of them, and an exponent of at least two digits. -/
def scientific (digits : List Char) (exponent : Int) : List Char :=
  let fraction := digits.drop 1
  let size := digitsOf exponent.natAbs
  digits.take 1 ++ (if fraction = [] then [] else '.' :: fraction) ++
    'e' :: (if exponent < 0 then '-' else '+') :: List.replicate (2 - size.length) '0' ++ size

/-- The shortest text that reads back, in positional notation for exponents from -4 to 15. -/
def text : Binary64 → String
  | .nan => "nan"
  | .infinite negative => if negative then "-inf" else "inf"
  | .finite negative significand exponent =>
    let sign := if negative then ['-'] else []
    if significand = 0 then
      String.ofList (sign ++ "0.0".toList)
    else
      let (coefficient, scale) := shortest significand exponent
      let point := scale + digitCount coefficient
      let written := digitsOf coefficient
      let digits := (written.reverse.dropWhile (· = '0')).reverse
      String.ofList <| sign ++
        if point ≤ -4 ∨ 16 < point then scientific digits (point - 1) else positional digits point

end Binary64

end DirectoryQuery.Numeric
