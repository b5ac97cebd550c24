/-
Module: DirectoryQuery.Value.Text
Purpose: The texts of values: as they read, and as they are written inside other values.
Main exports:
  Value.reading, Value.literal, Value.rdnText, Value.isOversized, Value.isUnwritable,
  Value.isUnreadable
-/
import DirectoryQuery.Numeric.Radix
import DirectoryQuery.Numeric.Shortest
import DirectoryQuery.Text.Quoted
import DirectoryQuery.Value.Basic

namespace DirectoryQuery

open Numeric Calendar Text

/-- Texts with a separator between them. -/
def separated (separator : String) (parts : List String) : String := separator.intercalate parts

/-- An offset as a number of days, a number of seconds below a day and a number of microseconds below
a second, leaving out what is zero. -/
def Calendar.offsetLiteral (ahead : Int) : String :=
  if ahead = 0 then
    "datetime.timezone.utc"
  else
    let days := ahead / microsecondsPerDay
    let seconds := ahead / microsecondsPerSecond % secondsPerDay
    let microseconds := ahead % microsecondsPerSecond
    let parts :=
      (if days = 0 then [] else ["days=" ++ toString days]) ++
        (if seconds = 0 then [] else ["seconds=" ++ toString seconds]) ++
        (if microseconds = 0 then [] else ["microseconds=" ++ toString microseconds])
    "datetime.timezone(datetime.timedelta(" ++ separated ", " parts ++ "))"

/-- A moment by its parts; seconds and microseconds are left out where only zeros would follow. -/
def Calendar.Moment.literal (moment : Moment) : String :=
  let time :=
    if moment.microsecond ≠ 0 then [moment.second, moment.microsecond]
    else if moment.second ≠ 0 then [moment.second]
    else []
  let numbers :=
    [moment.date.year, moment.date.month, moment.date.day, moment.hour, moment.minute] ++ time
  let zone := (moment.offset.map fun ahead => ["tzinfo=" ++ offsetLiteral ahead]).getD []
  "datetime.datetime(" ++ separated ", " (numbers.map toString ++ zone) ++ ")"

/-- A day by its parts. -/
def Calendar.Date.literal (date : Date) : String :=
  "datetime.date(" ++ separated ", " ([date.year, date.month, date.day].map toString) ++ ")"

/-- Texts as a tuple: in parentheses, with a comma behind a lone one. -/
def tupleLiteral (parts : List String) : String :=
  match parts with
  | [single] => "(" ++ single ++ ",)"
  | parts => "(" ++ separated ", " parts ++ ")"

/-- A name by its relative names. -/
def DistinguishedName.literal (name : DistinguishedName) : String :=
  "DistinguishedName(rdns=" ++ tupleLiteral (name.rdns.map quoted) ++ ")"

/-- A placeholder by its parts. -/
def Parameter.literal (parameter : Parameter) : String :=
  "Parameter(index=" ++ toString parameter.index ++ ", name=" ++ quoted parameter.name ++ ")"

namespace Value

mutual

/-- A value as it is written inside another value, with texts between quotation marks. -/
def literal : Value → String
  | .null => "None"
  | .bool value => if value then "True" else "False"
  | .int value => toString value
  | .float value => value.text
  | .text value => quoted value
  | .list items => "[" ++ separated ", " (literals items) ++ "]"
  | .tuple items => tupleLiteral (literals items)
  | .record fields => "\x7b" ++ separated ", " (fieldLiterals fields) ++ "\x7d"
  | .bytes octets => quotedOctets octets
  | .byteArray octets => "bytearray(" ++ quotedOctetArray octets ++ ")"
  | .decimal value => "Decimal(" ++ quoted value.text ++ ")"
  | .name value => value.literal
  | .moment value => value.literal
  | .date value => value.literal
  | .member appearance _ _ => appearance.literal?.getD ""
  | .parameter value => value.literal
  | .foreign appearance => appearance.literal?.getD ""

/-- The literals of a list of values. -/
def literals : List Value → List String
  | [] => []
  | item :: rest => literal item :: literals rest

/-- The fields of a record, each as key and value. -/
def fieldLiterals : List (String × Value) → List String
  | [] => []
  | (key, value) :: rest => (quoted key ++ ": " ++ literal value) :: fieldLiterals rest

end

/-- A value as it reads on its own. -/
def reading : Value → String
  | .text value => value
  | .decimal value => value.text
  | .name value => value.text
  | .moment value => value.text
  | .date value => value.text
  | .member appearance _ _ => appearance.reading
  | .foreign appearance => appearance.reading
  | value => value.literal

/-- The text that a value gives to a relative name: the text that it is, else as it reads. -/
def rdnText (value : Value) : String := value.asText?.getD value.reading

/-! ### Values without a text -/

/-- Whether a whole number has more digits than are ever written. -/
def isOversized (number : Int) : Bool :=
  decide (wholeNumberDigitLimit < digitCount number.natAbs)

mutual

/-- Whether a value cannot be written inside another value, since a whole number in it has too many
digits. -/
def isUnwritable : Value → Bool
  | .int value => isOversized value
  | .list items => isAnyUnwritable items
  | .tuple items => isAnyUnwritable items
  | .record fields => isAnyFieldUnwritable fields
  | .member appearance _ _ => appearance.literal?.isNone
  | .parameter value => isOversized value.index
  | .foreign appearance => appearance.literal?.isNone
  | _ => false

/-- Whether one of several values cannot be written. -/
def isAnyUnwritable : List Value → Bool
  | [] => false
  | item :: rest => isUnwritable item || isAnyUnwritable rest

/-- Whether the value of one of several fields cannot be written. -/
def isAnyFieldUnwritable : List (String × Value) → Bool
  | [] => false
  | (_, value) :: rest => isUnwritable value || isAnyFieldUnwritable rest

end

/-- Whether a value cannot be read on its own, since a whole number in it has too many digits.  How a
member of an enumeration reads does not depend on its value; but if the member is a whole number and
reads as such, that number has to be written. -/
def isUnreadable : Value → Bool
  | .member appearance (.integer own) _ => isOversized own && appearance.reading == toString own
  | .member _ _ _ => false
  | .foreign _ => false
  | value => value.isUnwritable

end Value

end DirectoryQuery
