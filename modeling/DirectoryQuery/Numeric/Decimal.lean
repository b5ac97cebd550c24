/-
Module: DirectoryQuery.Numeric.Decimal
Purpose: Decimal numbers that keep their digits and exponent.
Main exports:
  Decimal, Decimal.read?, Decimal.text, Decimal.isFinite, Decimal.truncate?
-/
import DirectoryQuery.Numeric.Numeral
import DirectoryQuery.Text.Blank

namespace DirectoryQuery.Numeric

open Text

/-- A decimal number: a numeral kept as it was written, an infinity, or a result that is no number
and may carry a diagnostic payload. -/
inductive Decimal where
  | finite (numeral : Numeral)
  | infinite (negative : Bool)
  | notANumber (negative : Bool) (signaling : Bool) (payload : Nat)
deriving Repr, DecidableEq, Inhabited

namespace Decimal

/-- Reads `nan` or `snan` in lower case, followed by the digits of the payload. -/
def readNotANumber? (negative : Bool) (unsigned : List Char) : Option Decimal :=
  let (signaling, rest) :=
    match unsigned with
    | 's' :: rest => (true, rest)
    | rest => (false, rest)
  match rest with
  | 'n' :: 'a' :: 'n' :: digits =>
    if digits.all Char.isDigit then some (.notANumber negative signaling (naturalOf digits))
    else none
  | _ => none

/-- Reads a numeral, an infinity or a result that is no number, in any letter case, with white space
around it and underscores anywhere in it.  Digits may be of any script. -/
def read? (text : String) : Option Decimal :=
  let unpadded := ((trim text.toList).filter (· ≠ '_')).map numeralChar
  let (negative, unsigned) := readSign unpadded
  let word := unsigned.map Char.toLower
  if word = "inf".toList ∨ word = "infinity".toList then some (.infinite negative)
  else (readNotANumber? negative word).or ((readNumeral? unpadded).map .finite)

/-- The digits of a coefficient with a point before the last `places` of them. -/
def withPlaces (digits : List Char) (places : Nat) : List Char :=
  if places = 0 then
    digits
  else
    let padded := List.replicate (places + 1 - digits.length) '0' ++ digits
    padded.take (padded.length - places) ++ '.' :: padded.drop (padded.length - places)

/-- A numeral with all its digits: positional, unless that would need zeros after the last digit or
more than five zeros after the point. -/
def numeralText (numeral : Numeral) : List Char :=
  let digits := digitsOf numeral.coefficient
  let order := numeral.exponent + digits.length - 1
  let sign := if numeral.negative then ['-'] else []
  if numeral.exponent ≤ 0 ∧ -6 ≤ order then
    sign ++ withPlaces digits (-numeral.exponent).toNat
  else
    sign ++ withPlaces digits (digits.length - 1) ++
      'E' :: (if order < 0 then '-' else '+') :: digitsOf order.natAbs

/-- The text of a decimal number, from which it can be read back. -/
def text : Decimal → String
  | .finite numeral => String.ofList (numeralText numeral)
  | .infinite negative => (if negative then "-" else "") ++ "Infinity"
  | .notANumber negative signaling payload =>
    (if negative then "-" else "") ++ (if signaling then "sNaN" else "NaN") ++
      (if payload = 0 then "" else String.ofList (digitsOf payload))

/-- Whether the number is neither infinite nor a result that is no number. -/
def isFinite : Decimal → Bool
  | .finite _ => true
  | _ => false

/-- The whole part of a finite number. -/
def truncate? : Decimal → Option Int
  | .finite numeral =>
    let size : Int :=
      (numeral.coefficient * tenTo numeral.exponent.toNat / tenTo (-numeral.exponent).toNat : Nat)
    some (if numeral.negative then -size else size)
  | _ => none

end Decimal

end DirectoryQuery.Numeric
