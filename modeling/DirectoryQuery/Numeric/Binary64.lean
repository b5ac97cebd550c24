/-
Module: DirectoryQuery.Numeric.Binary64
Purpose: Double precision numbers in exact arithmetic: rounding to them and truncating them.
Main exports:
  Binary64, Binary64.ofNumeral, Binary64.read?, Binary64.truncate?, Binary64.isIntegral
-/
import DirectoryQuery.Numeric.Numeral
import DirectoryQuery.Text.Blank

namespace DirectoryQuery.Numeric

open Text

/-- A double precision number.  A finite one is `significand · 2 ^ exponent`, with a significand
below `2 ^ 53` and the least exponent from `-1074` on that allows it. -/
inductive Binary64 where
  | nan
  | infinite (negative : Bool)
  | finite (negative : Bool) (significand : Nat) (exponent : Int)
deriving Repr, DecidableEq, Inhabited

namespace Binary64

/-- The least exponent of a finite number. -/
def leastExponent : Int := -1074

/-- The greatest exponent of a finite number. -/
def greatestExponent : Int := 971

/-- The number zero of the given sign. -/
def zero (negative : Bool) : Binary64 := .finite negative 0 leastExponent

/-- The quotient rounded to the nearest natural number, a tie to the even one. -/
def roundDiv (numerator denominator : Nat) : Nat :=
  let quotient := numerator / denominator
  let remainder := numerator % denominator
  if denominator < 2 * remainder ∨ (denominator = 2 * remainder ∧ quotient % 2 = 1) then
    quotient + 1
  else
    quotient

/-- The quotient divided by `2 ^ exponent`, as a new quotient. -/
def scaleDown (numerator denominator : Nat) (exponent : Int) : Nat × Nat :=
  (numerator * twoTo (-exponent).toNat, denominator * twoTo exponent.toNat)

/-- The exponent of the greatest power of two that a positive quotient reaches. -/
def binaryOrder (numerator denominator : Nat) : Int :=
  let guess : Int := (numerator.log2 : Int) - denominator.log2
  let (scaled, unit) := scaleDown numerator denominator guess
  if scaled < unit then guess - 1 else guess

/-- The double precision number nearest to a quotient, a tie to the even significand. -/
def ofQuotient (negative : Bool) (numerator denominator : Nat) : Binary64 :=
  if numerator = 0 then
    zero negative
  else
    let exponent := max (binaryOrder numerator denominator - 52) leastExponent
    let (scaled, unit) := scaleDown numerator denominator exponent
    let significand := roundDiv scaled unit
    let (significand, exponent) :=
      if significand = twoTo 53 then (twoTo 52, exponent + 1) else (significand, exponent)
    if greatestExponent < exponent then .infinite negative
    else .finite negative significand exponent

/-- The double precision number nearest to a numeral.  Beyond `10 ^ 310` it is infinite and below
`10 ^ -330` zero, whatever the digits are. -/
def ofNumeral (numeral : Numeral) : Binary64 :=
  let order := numeral.exponent + digitCount numeral.coefficient
  if numeral.coefficient = 0 ∨ order < -330 then zero numeral.negative
  else if 310 < order then .infinite numeral.negative
  else
    ofQuotient numeral.negative (numeral.coefficient * tenTo numeral.exponent.toNat)
      (tenTo (-numeral.exponent).toNat)

/-- Reads a numeral, `inf`, `infinity` or `nan` in any letter case, with white space around it.
Digits may be of any script and have single underscores between them. -/
def read? (text : String) : Option Binary64 :=
  let unpadded := trimWhere isAsciiBlank (text.toList.map numeralChar)
  let (negative, unsigned) := readSign unpadded
  let word := String.ofList (unsigned.map Char.toLower)
  if word = "inf" ∨ word = "infinity" then some (.infinite negative)
  else if word = "nan" then some .nan
  else ((withoutUnderscores? false unpadded).bind readNumeral?).map ofNumeral

/-- The whole part of a finite number. -/
def truncate? : Binary64 → Option Int
  | .finite negative significand exponent =>
    let size : Int := (significand * twoTo exponent.toNat / twoTo (-exponent).toNat : Nat)
    some (if negative then -size else size)
  | _ => none

/-- Whether a number is finite and has no fraction. -/
def isIntegral : Binary64 → Bool
  | .finite _ significand exponent => significand % twoTo (-exponent).toNat == 0
  | _ => false

end Binary64

end DirectoryQuery.Numeric
