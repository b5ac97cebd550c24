/-
Module: DirectoryQuery.Filter.Assertion
Purpose: Assertion values of filters: their escaped form, and the values that have one.
Main exports:
  Assertion, Assertion.written, splitPattern, AssertionError, AssertionError.message,
  Value.assertion, Value.substringAssertion
-/
import DirectoryQuery.Numeric.Radix
import DirectoryQuery.Text.Quoted
import DirectoryQuery.Text.Split
import DirectoryQuery.Value.Text

namespace DirectoryQuery

open Text

/-- A value in a filter in its plain form: characters, or octets that need not be text. -/
inductive Assertion where
  | text (characters : List Char)
  | octets (content : List UInt8)
deriving Repr, DecidableEq

/-! ### Escaped form -/

/-- An octet as a backslash and two hexadecimal digits. -/
def escapedOctet (octet : Nat) : List Char :=
  ['\\', Quoted.hexDigit (octet / 16), Quoted.hexDigit (octet % 16)]

/-- The characters with a meaning of their own in a filter. -/
def isFilterSpecial (c : Char) : Bool :=
  c == '\\' || c == '*' || c == '(' || c == ')' || c == '\x00'

/-- A text with its special characters as escaped octets. -/
def escaped (text : List Char) : List Char :=
  text.flatMap fun c => if isFilterSpecial c then escapedOctet c.toNat else [c]

/-- An assertion value as it stands in a filter.  Octets are escaped one and all. -/
def Assertion.written : Assertion → List Char
  | .text characters => escaped characters
  | .octets content => content.flatMap fun octet => escapedOctet octet.toNat

/-! ### Patterns -/

/-- The mark that stands for any text in a pattern. -/
def wildcard : Char := '*'

/-- A pattern with a single wildcard in the place of each run of them. -/
def collapseWildcards : List Char → List Char
  | [] => []
  | c :: rest =>
    if c = wildcard ∧ rest.head? = some wildcard then collapseWildcards rest
    else c :: collapseWildcards rest

/-- The texts between the wildcards of a pattern. -/
def splitPattern (pattern : List Char) : List Char × List (List Char) :=
  split wildcard (collapseWildcards pattern)

/-- A pattern with all special characters escaped but the wildcards. -/
def escapedPattern (pattern : List Char) : List Char :=
  let (first, others) := splitPattern pattern
  joinWith wildcard (escaped first) (others.map escaped)

/-! ### Values -/

/-- Why a value cannot stand in a filter. -/
inductive AssertionError where
  | null
  | infiniteDecimal (literal : String)
  | timeOutOfRange
  | oversizedInteger
  | noAssertion (kind : String)
  | noSubstring (kind : String)
  | emptySubstring
deriving Repr, DecidableEq

namespace AssertionError

/-- The wording of the complaint. -/
def message : AssertionError → String
  | .null => "None cannot be used as an assertion value; use IsNull instead"
  | .infiniteDecimal literal => "Cannot render " ++ literal
  | .timeOutOfRange => "date value out of range"
  | .oversizedInteger => Numeric.unwrittenNumberMessage
  | .noAssertion kind => "Values of type " ++ kind ++ " cannot be rendered in a filter"
  | .noSubstring kind => "Substring matching is not defined for " ++ kind ++ " values"
  | .emptySubstring => "Substring assertion value must not be empty"

/-- Whether the calendar or the writing of numbers, and not the filter, sets a limit. -/
def isLimit : AssertionError → Bool
  | .timeOutOfRange | .oversizedInteger => true
  | _ => false

end AssertionError

namespace Value

/-- The assertion value that a value stands for.  A member of an enumeration stands for its value,
and a moment is given in universal time. -/
def assertion (value : Value) : Except AssertionError Assertion :=
  match value with
  | .null => .error .null
  | .bytes octets => .ok (.octets octets)
  | .byteArray octets => .ok (.octets octets)
  | .member _ _ inner => inner.assertion
  | .bool truth => .ok (.text (if truth then "TRUE" else "FALSE").toList)
  | .int number =>
    if isOversized number then .error .oversizedInteger
    else .ok (.text (toString number).toList)
  | .decimal number =>
    if number.isFinite then .ok (.text number.text.toList)
    else .error (.infiniteDecimal (Value.decimal number).literal)
  | .moment time =>
    match time.utc? with
    | some universal => .ok (.text universal.generalizedTime)
    | none => .error .timeOutOfRange
  | .name value => .ok (.text value.text.toList)
  | .text characters => .ok (.text characters.toList)
  | other => .error (.noAssertion other.kindName)

/-- Whether a value can be no part of a text: octets and truth values have no substrings. -/
def hasNoSubstrings : Value → Bool
  | .bytes _ | .byteArray _ | .bool _ => true
  | _ => false

/-- The assertion value for a match with a part of a text. -/
def substringAssertion (value : Value) : Except AssertionError Assertion :=
  if value.hasNoSubstrings then .error (.noSubstring value.kindName)
  else
    match value.assertion with
    | .error error => .error error
    | .ok assertion => if assertion.written = [] then .error .emptySubstring else .ok assertion

end Value

end DirectoryQuery
