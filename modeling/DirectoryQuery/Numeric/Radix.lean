/-
Module: DirectoryQuery.Numeric.Radix
Purpose: Whole numbers written in a base between two and thirty-six.
Main exports:
  WholeNumberFault, wholeNumberDigitLimit, oversizedNumberMessage, digitOf?, naturalIn,
  readWholeNumber
-/
import DirectoryQuery.Numeric.Numeral

namespace DirectoryQuery.Numeric

open Text

/-- Why a text is no whole number: it has another form, or too many digits. -/
inductive WholeNumberFault where
  | unreadable
  | oversized (digits : Nat)
deriving Repr, DecidableEq

/-- The most digits that a whole number may have where reading or writing them takes more than
shifting. -/
def wholeNumberDigitLimit : Nat := 4300

/-- The wording of the complaint about a number with too many digits. -/
def oversizedNumberMessage (digits : Nat) : String :=
  "Exceeds the limit (" ++ toString wholeNumberDigitLimit ++
    " digits) for integer string conversion: value has " ++ toString digits ++
    " digits; use sys.set_int_max_str_digits() to increase the limit"

/-- The wording of the complaint about a number that is not written for its many digits. -/
def unwrittenNumberMessage : String :=
  "Exceeds the limit (" ++ toString wholeNumberDigitLimit ++
    " digits) for integer string conversion; use sys.set_int_max_str_digits() to increase the limit"

/-- Whether the digits of a number in a base are counted: in all bases but the powers of two. -/
def hasDigitLimit (base : Nat) : Bool := base ∉ [2, 4, 8, 16, 32]

/-- The value of a character as a digit; letters of either case follow the nine. -/
def digitValue? (c : Char) : Option Nat :=
  if c.isDigit then some (c.toNat - '0'.toNat)
  else if c.isAlpha then some (c.toLower.toNat - 'a'.toNat + 10)
  else none

/-- The value of a character as a digit of a base. -/
def digitOf? (base : Nat) (c : Char) : Option Nat := (digitValue? c).filter (· < base)

/-- The natural number that digits write in a base, highest digit first. -/
def naturalIn (base : Nat) (digits : List Nat) : Nat :=
  digits.foldl (fun value digit => base * value + digit) 0

/-- Reads digits of a base with single underscores between them. -/
def readGroupedDigits? (base : Nat) : List Char → Option (List Nat)
  | [] => none
  | c :: rest => do
    let digit ← digitOf? base c
    match rest with
    | [] => return [digit]
    | '_' :: more => return digit :: (← readGroupedDigits? base more)
    | more => return digit :: (← readGroupedDigits? base more)

/-- The base that a zero and a letter at the front of a number stand for, and what follows them. -/
def markedBase? : List Char → Option (Nat × List Char)
  | '0' :: mark :: rest =>
    match mark.toLower with
    | 'x' => some (16, rest)
    | 'o' => some (8, rest)
    | 'b' => some (2, rest)
    | _ => none
  | _ => none

/-- The base of a number and its digits.  A mark counts if it names the given base or if none, that
is zero, is given; an underscore may follow it.  A number without base and mark is decimal. -/
def basedDigits (base : Nat) (unsigned : List Char) : Nat × List Char :=
  let unmarked := (if base = 0 then 10 else base, unsigned)
  match markedBase? unsigned with
  | none => unmarked
  | some (marked, rest) =>
    if base = 0 ∨ base = marked then
      (marked, if rest.head? = some '_' then rest.drop 1 else rest)
    else
      unmarked

/-- Whether digits have a needless zero at the front, which only zero itself may have in a number
whose base is not given. -/
def hasNeedlessZero (base : Nat) (unsigned : List Char) (size : Nat) : Bool :=
  base == 0 && (markedBase? unsigned).isNone && unsigned.head? == some '0' && size != 0

/-- Reads a whole number in a base, or in the one that it is marked with if the base is zero: white
space, a sign, digits with single underscores between them, white space. -/
def readWholeNumber (base : Nat) (text : List Char) : Except WholeNumberFault Int :=
  let (negative, unsigned) := readSign (trimWhere isAsciiBlank text)
  let (actual, written) := basedDigits base unsigned
  match readGroupedDigits? actual written with
  | none => .error .unreadable
  | some digits =>
    if hasDigitLimit actual ∧ wholeNumberDigitLimit < digits.length then
      .error (.oversized digits.length)
    else
      let size := naturalIn actual digits
      if hasNeedlessZero base unsigned size then .error .unreadable
      else .ok (if negative then -(size : Int) else size)

end DirectoryQuery.Numeric
