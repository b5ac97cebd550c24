/-
Module: DirectoryQuery.Text.Word
Purpose: Word characters and decimal digits of all scripts.
Main exports:
  isWordChar, decimalDigit?, isDecimalDigit
-/
import DirectoryQuery.Text.Word.Table

namespace DirectoryQuery.Text

/-- A character that names are made of: a letter or numeral of any script, or the underscore. -/
def isWordChar (c : Char) : Bool := c == '_' || Word.alphanumerics.contains c

/-- The value of a decimal digit of any script. -/
def decimalDigit? (c : Char) : Option Nat :=
  Word.decimalZeros.findSome? fun first =>
    if first ≤ c.toNat ∧ c.toNat < first + 10 then some (c.toNat - first) else none

/-- A decimal digit of any script. -/
def isDecimalDigit (c : Char) : Bool := (decimalDigit? c).isSome

/-- The value of an ASCII digit. -/
def asciiDigit? (c : Char) : Option Nat :=
  if c.isDigit then some (c.toNat - '0'.toNat) else none

/-- The natural number that a list of digit values writes in base ten, highest digit first. -/
def decimalValue (digits : List Nat) : Nat :=
  digits.foldl (fun value digit => 10 * value + digit) 0

end DirectoryQuery.Text
