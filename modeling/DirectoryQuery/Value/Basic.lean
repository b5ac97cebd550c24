/-
Module: DirectoryQuery.Value.Basic
Purpose: The values that conditions compare with.
Main exports:
  Parameter, Appearance, MemberKind, MemberKind.ownText?, Value, Value.kindName,
  Value.qualifiedKindName, Value.asText?, Value.parameter?, Value.ofJson
-/
import DirectoryQuery.Calendar.Moment
import DirectoryQuery.Json.Basic
import DirectoryQuery.Name.Basic
import DirectoryQuery.Numeric.Decimal

namespace DirectoryQuery

open Numeric Calendar

/-- A placeholder for an argument: its rank among the arguments and the name that it goes by. -/
structure Parameter where
  index : Int
  name : String
deriving Repr, DecidableEq, Inhabited

/-- How an object of a class of its own shows: the name of the class, how the object reads on its own,
and how it is written inside other values.  Which texts these are is up to the class.  An object that
would have to show a whole number with too many digits is not written inside other values. -/
structure Appearance where
  className : String
  reading : String
  literal? : Option String
deriving Repr, DecidableEq, Inhabited

/-- What a member of an enumeration is besides a name for its value. -/
inductive MemberKind where
  /-- Nothing else. -/
  | plain
  /-- A text as well, which need not be the value. -/
  | text (own : String)
  /-- A whole number as well, which need not be the value. -/
  | integer (own : Int)
deriving Repr, DecidableEq

/-- The text that a member is besides a name for its value. -/
def MemberKind.ownText? : MemberKind → Option String
  | .text own => some own
  | _ => none

/-- A value that a condition compares with, or that stands in the data form of a predicate.  A
`member` belongs to an enumeration and carries a value, a `parameter` waits for an argument, and a
`foreign` value is of a kind unknown here. -/
inductive Value where
  | null
  | bool (value : Bool)
  | int (value : Int)
  | float (value : Binary64)
  | text (value : String)
  | list (items : List Value)
  | tuple (items : List Value)
  | record (fields : List (String × Value))
  | bytes (octets : List UInt8)
  | byteArray (octets : List UInt8)
  | decimal (value : Decimal)
  | name (value : DistinguishedName)
  | moment (value : Moment)
  | date (value : Date)
  | member (appearance : Appearance) (kind : MemberKind) (value : Value)
  | parameter (value : Parameter)
  | foreign (appearance : Appearance)
deriving Repr, Inhabited

namespace Value

/-- The name of the kind of a value, as messages give it. -/
def kindName : Value → String
  | .null => "NoneType"
  | .bool _ => "bool"
  | .int _ => "int"
  | .float _ => "float"
  | .text _ => "str"
  | .list _ => "list"
  | .tuple _ => "tuple"
  | .record _ => "dict"
  | .bytes _ => "bytes"
  | .byteArray _ => "bytearray"
  | .decimal _ => "Decimal"
  | .name _ => "DistinguishedName"
  | .moment _ => "datetime"
  | .date _ => "date"
  | .member appearance _ _ => appearance.className
  | .parameter _ => "Parameter"
  | .foreign appearance => appearance.className

/-- The name of the kind of a value as some messages give it, with the family that it belongs to. -/
def qualifiedKindName : Value → String
  | .decimal _ => "decimal.Decimal"
  | .moment _ => "datetime.datetime"
  | .date _ => "datetime.date"
  | value => value.kindName

/-- The text that a value is: a text itself, or the one that a member is as well. -/
def asText? : Value → Option String
  | .text value => some value
  | .member _ kind _ => kind.ownText?
  | _ => none

/-- The placeholder that a value is. -/
def parameter? : Value → Option Parameter
  | .parameter placeholder => some placeholder
  | _ => none

/-- Whether a value is null. -/
def isNull : Value → Bool
  | .null => true
  | _ => false

theorem parameter?_eq_some_iff {value : Value} {placeholder : Parameter} :
    value.parameter? = some placeholder ↔ value = .parameter placeholder := by
  cases value <;> simp [parameter?]

/-! ### Values of JSON documents -/

mutual

/-- The value of a JSON document. -/
def ofJson : Json → Value
  | .null => .null
  | .bool value => .bool value
  | .int value => .int value
  | .float value => .float value
  | .text value => .text value
  | .list items => .list (ofJsonItems items)
  | .object members => .record (ofJsonMembers members)

/-- The values of the items of a JSON list. -/
def ofJsonItems : List Json → List Value
  | [] => []
  | item :: rest => ofJson item :: ofJsonItems rest

/-- The values of the members of a JSON object. -/
def ofJsonMembers : List (String × Json) → List (String × Value)
  | [] => []
  | (key, document) :: rest => (key, ofJson document) :: ofJsonMembers rest

end

end Value

end DirectoryQuery
