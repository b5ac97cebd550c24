/-
Module: DirectoryQuery.Value.WholeNumber
Purpose: The whole numbers that values stand for.
Main exports:
  NumberProblem, NumberProblem.message, readNumber, Value.wholeNumberIn, Value.wholeNumber
-/
import DirectoryQuery.Numeric.Binary64
import DirectoryQuery.Numeric.Radix
import DirectoryQuery.Value.Text

namespace DirectoryQuery

open Numeric Text

/-- Why a value stands for no whole number. -/
inductive NumberProblem where
  /-- A text or octets that write no number in the base; zero is a base left open. -/
  | unreadable (base : Nat) (written : String)
  /-- A text or octets that write a number with too many digits. -/
  | oversized (digits : Nat)
  | undefinedFloat
  | undefinedDecimal
  | infiniteFloat
  | infiniteDecimal
  /-- A value of a kind that stands for no numbers. -/
  | wrongKind (kind : String)
  /-- A value that is to be read in a base but is neither text nor octets. -/
  | notWritten
deriving Repr, DecidableEq

namespace NumberProblem

/-- The most characters of a text or octets that a message shows. -/
def shownLimit : Nat := 200

/-- The wording of the complaint. -/
def message : NumberProblem → String
  | .unreadable base written =>
    "invalid literal for int() with base " ++ toString base ++ ": " ++
      String.ofList (written.toList.take shownLimit)
  | .oversized digits => oversizedNumberMessage digits
  | .undefinedFloat => "cannot convert float NaN to integer"
  | .undefinedDecimal => "cannot convert NaN to integer"
  | .infiniteFloat => "cannot convert float infinity to integer"
  | .infiniteDecimal => "cannot convert Infinity to integer"
  | .wrongKind kind =>
    "int() argument must be a string, a bytes-like object or a real number, not '" ++ kind ++ "'"
  | .notWritten => "int() can't convert non-string with explicit base"

/-- Whether a value was infinite. -/
def isInfinite : NumberProblem → Bool
  | .infiniteFloat | .infiniteDecimal => true
  | _ => false

/-- Whether a value was of a kind that stands for no numbers. -/
def isMismatch : NumberProblem → Bool
  | .wrongKind _ | .notWritten => true
  | _ => false

end NumberProblem

/-- Reads a number in a base; `written` is how a complaint shows the text. -/
def readNumber (base : Nat) (text : List Char) (written : String) : Except NumberProblem Int :=
  (readWholeNumber base text).mapError fun fault =>
    match fault with
    | .unreadable => .unreadable base written
    | .oversized digits => .oversized digits

/-- Reads a number in a base from octets, one character each. -/
def readNumberOctets (base : Nat) (octets : List UInt8) : Except NumberProblem Int :=
  readNumber base (octets.map fun octet => Char.ofNat octet.toNat) (quotedOctets octets)

/-- The whole part of a double precision number. -/
def Numeric.Binary64.wholeNumber (value : Binary64) : Except NumberProblem Int :=
  match value, value.truncate? with
  | _, some whole => .ok whole
  | .infinite _, none => .error .infiniteFloat
  | _, none => .error .undefinedFloat

/-- The whole part of a decimal number. -/
def Numeric.Decimal.wholeNumber (value : Decimal) : Except NumberProblem Int :=
  match value, value.truncate? with
  | _, some whole => .ok whole
  | .infinite _, none => .error .infiniteDecimal
  | _, none => .error .undefinedDecimal

namespace Value

/-- The whole number that a text or octets write in a base.  Digits of a text may be of any script.
-/
def wholeNumberIn (base : Nat) (value : Value) : Except NumberProblem Int :=
  match value with
  | .bytes octets => readNumberOctets base octets
  | .byteArray octets => readNumberOctets base octets
  | value =>
    match value.asText? with
    | some written => readNumber base (written.toList.map numeralChar) value.literal
    | none => .error .notWritten

/-- The whole number that a value stands for.  Numbers lose their fraction, and texts and octets are
read as decimal numbers. -/
def wholeNumber : Value → Except NumberProblem Int
  | .bool value => .ok (if value then 1 else 0)
  | .int value => .ok value
  | .float value => value.wholeNumber
  | .decimal value => value.wholeNumber
  | .text value => wholeNumberIn 10 (.text value)
  | .bytes octets => readNumberOctets 10 octets
  | .byteArray octets => readNumberOctets 10 octets
  | .member appearance (.text own) value => wholeNumberIn 10 (.member appearance (.text own) value)
  | .member _ (.integer own) _ => .ok own
  | value => .error (.wrongKind value.qualifiedKindName)

end Value

end DirectoryQuery
