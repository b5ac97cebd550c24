/-
Module: DirectoryQuery.Numeric.Numeral
Purpose: Decimal numerals with a fraction and an exponent.
Main exports:
  digitsOf, digitCount, numeralChar, withoutUnderscores?, Numeral, Numeral.ofParts, readSign,
  readNumeral?
-/
import DirectoryQuery.Text.Blank
import DirectoryQuery.Text.Word

namespace DirectoryQuery.Numeric

open Text

/-- The decimal digits of a natural number. -/
def digitsOf (n : Nat) : List Char := Nat.toDigits 10 n

/-- The number of decimal digits of a natural number; zero has one digit. -/
def digitCount (n : Nat) : Nat := (digitsOf n).length

/-- The number written by a list of ASCII digits. -/
def naturalOf (digits : List Char) : Nat := decimalValue (digits.filterMap asciiDigit?)

/-- The ASCII form of a character in a numeral: a decimal digit of any script becomes the ASCII
digit of its value, and white space a space.  Any other character beyond ASCII becomes a question
mark, which no numeral has. -/
def numeralChar (c : Char) : Char :=
  if c.toNat < 0x7F then c
  else if isBlank c then ' '
  else
    match decimalDigit? c with
    | some digit => Char.ofNat ('0'.toNat + digit)
    | none => '?'

/-- A numeral without its underscores, each of which must stand between two digits.  `afterDigit`
says whether a digit comes before the text. -/
def withoutUnderscores? (afterDigit : Bool) : List Char → Option (List Char)
  | [] => some []
  | c :: rest =>
    if c = '_' then
      if afterDigit && (rest.head?.any Char.isDigit) then withoutUnderscores? false rest else none
    else
      (withoutUnderscores? c.isDigit rest).map (c :: ·)

/-- A power of two. -/
def twoTo (exponent : Nat) : Nat := Nat.pow 2 exponent

/-- A power of ten. -/
def tenTo (exponent : Nat) : Nat := Nat.pow 10 exponent

/-- The number `coefficient · 10 ^ exponent`, with a sign that zero has too. -/
structure Numeral where
  negative : Bool
  coefficient : Nat
  exponent : Int
deriving Repr, DecidableEq

/-- The numeral made of a sign, the digits before and after the point, and an exponent. -/
def Numeral.ofParts (negative : Bool) (whole fraction : List Char) (exponent : Int) : Numeral where
  negative := negative
  coefficient := naturalOf (whole ++ fraction)
  exponent := exponent - fraction.length

/-- Takes an optional sign off; the flag says whether it was a minus. -/
def readSign : List Char → Bool × List Char
  | '-' :: rest => (true, rest)
  | '+' :: rest => (false, rest)
  | rest => (false, rest)

/-- Reads an exponent part `e±ddd` that must reach the end of the text; none counts as zero. -/
def readExponent? : List Char → Option Int
  | [] => some 0
  | c :: rest =>
    if c = 'e' ∨ c = 'E' then
      let (negative, digits) := readSign rest
      if digits ≠ [] ∧ digits.all Char.isDigit then
        some (if negative then -(naturalOf digits : Int) else naturalOf digits)
      else
        none
    else
      none

/-- Reads a numeral that takes up the whole text: a sign, digits with at most one point among them,
and an exponent.  There must be a digit on one side of the point. -/
def readNumeral? (text : List Char) : Option Numeral :=
  let (negative, unsigned) := readSign text
  let whole := unsigned.takeWhile Char.isDigit
  let (fraction, rest) :=
    match unsigned.dropWhile Char.isDigit with
    | '.' :: rest => (rest.takeWhile Char.isDigit, rest.dropWhile Char.isDigit)
    | rest => ([], rest)
  if whole = [] ∧ fraction = [] then
    none
  else
    (readExponent? rest).map (Numeral.ofParts negative whole fraction)

end DirectoryQuery.Numeric
