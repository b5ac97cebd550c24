/-
Module: DirectoryQuery.Numeric.Padded
Purpose: Whole numbers in texts that pad them with white space, zeros and a fraction of zeros.
Main exports:
  readPaddedInteger
-/
import DirectoryQuery.Numeric.Radix
import DirectoryQuery.Text.Split

namespace DirectoryQuery.Numeric

open Text

/-!
A number in its plain form is read as it stands.  Otherwise the padding comes off in this order: the
white space around the text, one sign, the zeros at the front with any underscores among them, a
fraction of zeros, and underscores between groups of characters.  A minus sign may also stand behind
the zeros.
-/

/-- What is left of an unsigned number when the zeros at its front are taken off, given the last
character that was taken off.  That one stays where the number would end or its fraction begin. -/
def behindZeros? (last : Char) : List Char → Option (List Char)
  | [] => some [last]
  | c :: rest =>
    if c = '0' ∨ c = '_' then behindZeros? c rest
    else if c = '.' then some (last :: c :: rest)
    else if c.isDigit ∨ c = '-' then some (c :: rest)
    else none

/-- An unsigned number without the zeros at its front; it must start with a digit. -/
def withoutLeadingZeros? : List Char → Option (List Char)
  | [] => none
  | c :: rest =>
    if c = '0' then behindZeros? c rest
    else if c.isDigit then some (c :: rest)
    else none

/-- A number without the point and the zeros that end it.  A point with nothing behind it stays. -/
def withoutZeroFraction (number : List Char) : List Char :=
  let whole := number.takeWhile (· ≠ '.')
  let fraction := number.drop (whole.length + 1)
  if fraction ≠ [] ∧ fraction.all (· = '0') then whole else number

/-- A number without the underscores in it, none of which may stand at an end or beside another. -/
def joinedGroups? (number : List Char) : Option (List Char) :=
  let (first, others) := split '_' number
  if others ≠ [] ∧ [] ∈ first :: others then none else some (first ++ others.flatten)

/-- Reads a number in its plain form: a minus sign if it is negative, and digits of which only a
lone one may be zero at the front. -/
def readPlainInteger (number : List Char) : Except WholeNumberFault Int :=
  let negative := number.head? = some '-'
  let unsigned := if negative then number.drop 1 else number
  let digits := unsigned.takeWhile Char.isDigit
  if digits.head? = some '0' ∧ digits.length ≠ 1 then .error .unreadable
  else if wholeNumberDigitLimit < digits.length then .error (.oversized digits.length)
  else if digits = [] ∨ unsigned ≠ digits then .error .unreadable
  else .ok (if negative then -(naturalOf digits : Int) else naturalOf digits)

/-- The plain form of a padded number. -/
def plainForm? (text : List Char) : Option (List Char) := do
  let (negative, unsigned) := readSign (trimWhere isSpacing text)
  let number ← joinedGroups? (withoutZeroFraction (← withoutLeadingZeros? unsigned))
  return if negative then '-' :: number else number

/-- Reads the plain form that is left of a padded number, which does not say what is wrong with it.
-/
def readUnpadded? (text : List Char) : Option Int :=
  (plainForm? text).bind fun number => (readPlainInteger number).toOption

/-- Reads a whole number, with padding or without.  Too many digits are told from other faults only
in a text that starts with them or with a minus sign before them. -/
def readPaddedInteger (text : List Char) : Except WholeNumberFault Int :=
  match readPlainInteger text with
  | .error .unreadable => (readUnpadded? text).elim (.error .unreadable) .ok
  | outcome => outcome

end DirectoryQuery.Numeric
