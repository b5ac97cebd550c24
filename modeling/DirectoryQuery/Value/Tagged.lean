/-
Module: DirectoryQuery.Value.Tagged
Purpose: Values as JSON documents, with tagged objects for the kinds that JSON does not have.
Main exports:
  TagFault, Value.ofTagged, Value.toTagged
-/
import DirectoryQuery.Json.Printer
import DirectoryQuery.Name.Parser
import DirectoryQuery.Value.Member

namespace DirectoryQuery

open Calendar Numeric Text

/-! ### Writing -/

/-- Octets as pairs of hexadecimal digits. -/
def octetsText (octets : List UInt8) : String :=
  String.ofList (octets.flatMap fun octet => Quoted.hexPadded 2 octet.toNat)

/-- The parts of a day. -/
def Calendar.Date.parts (date : Date) : List Nat := [date.year, date.month, date.day]

/-- The parts of a moment, the offset apart. -/
def Calendar.Moment.parts (moment : Moment) : List Nat :=
  moment.date.parts ++ [moment.hour, moment.minute, moment.second, moment.microsecond]

/-- Natural numbers as JSON. -/
def Json.naturals (numbers : List Nat) : List Json := numbers.map fun (n : Nat) => .int n

/-- What a member of an enumeration is besides.  The notation has no place for a text or a number that
is not the value. -/
def MemberKind.toTagged : MemberKind → Json
  | .plain => .null
  | .text _ => .text "str"
  | .integer _ => .text "int"

namespace Value

mutual

/-- The JSON form of a value. -/
def toTagged : Value → Json
  | .null => .null
  | .bool value => .bool value
  | .int value => .int value
  | .float value => .object [("$float", .text value.text)]
  | .text value => .text value
  | .list items => .list (toTaggedItems items)
  | .tuple items => .object [("$tuple", .list (toTaggedItems items))]
  | .record fields => .object (toTaggedFields fields)
  | .bytes octets => .object [("$bytes", .text (octetsText octets))]
  | .byteArray octets => .object [("$bytearray", .text (octetsText octets))]
  | .decimal value => .object [("$decimal", .text value.text)]
  | .name value => .object [("$dn", .text value.text)]
  | .moment value =>
    -- The notation has offsets of whole seconds.
    let offset : Json := (value.offset.map fun ahead => .int (ahead / microsecondsPerSecond)).getD .null
    .object [("$datetime", .list (Json.naturals value.parts ++ [offset]))]
  | .date value => .object [("$date", .list (Json.naturals value.parts))]
  | .member _ kind value => .object [("$enum", toTagged value), ("mixin", kind.toTagged)]
  | .parameter value => .object [("$param", .list [.int value.index, .text value.name])]
  | .foreign _ => .object [("$object", .int 1)]

/-- The JSON forms of values. -/
def toTaggedItems : List Value → List Json
  | [] => []
  | item :: rest => toTagged item :: toTaggedItems rest

/-- The JSON forms of fields. -/
def toTaggedFields : List (String × Value) → List (String × Json)
  | [] => []
  | (key, value) :: rest => (key, toTagged value) :: toTaggedFields rest

end

end Value

/-! ### Reading -/

/-- Why a tagged object stands for no value. -/
inductive TagFault where
  | invalidFloat (text : String)
  | invalidDecimal (text : String)
  | invalidOctets (position : Nat)
  | invalidName (invalid : InvalidName)
  | invalidTime
  | invalidMember (problem : MemberProblem)
  | malformed (tag : String)
deriving Repr, DecidableEq

/-- Octets from pairs of hexadecimal digits with white space between them, or the position of what
is no digit; `position` is that of the first character. -/
def readOctetPairs (position : Nat) : List Char → Except Nat (List UInt8)
  | [] => .ok []
  | [c] => if isAsciiBlank c then .ok [] else .error (position + (digitOf? 16 c).toList.length)
  | high :: low :: rest =>
    if isAsciiBlank high then
      readOctetPairs (position + 1) (low :: rest)
    else
      match digitOf? 16 high, digitOf? 16 low with
      | some sixteens, some ones =>
        (readOctetPairs (position + 2) rest).map (UInt8.ofNat (16 * sixteens + ones) :: ·)
      | none, _ => .error position
      | some _, none => .error (position + 1)

/-- Octets from a text of hexadecimal digits. -/
def readOctets (digits : String) : Except TagFault (List UInt8) :=
  (readOctetPairs 0 digits.toList).mapError .invalidOctets

/-- The natural number that a value is. -/
def Value.natural? : Value → Option Nat
  | .int value => if value < 0 then none else some value.toNat
  | _ => none

/-- The text that a value of the plain kind is. -/
def Value.plainText? : Value → Option String
  | .text value => some value
  | _ => none

/-- The date with given parts. -/
def readDate (parts : List Value) : Except TagFault Date :=
  match parts.mapM Value.natural? with
  | some [year, month, day] => ((Date.ofParts? year month day).map .ok).getD (.error .invalidTime)
  | _ => .error (.malformed "$date")

/-- The moment with given parts and offset. -/
def readMoment (parts : List Value) (offset : Option Int) : Except TagFault Moment :=
  match parts.mapM Value.natural? with
  | some [year, month, day, hour, minute, second, microsecond] =>
    match Date.ofParts? year month day with
    | none => .error .invalidTime
    | some date =>
      ((Moment.ofParts? date hour minute second microsecond offset).map .ok).getD
        (.error .invalidTime)
  | _ => .error (.malformed "$datetime")

/-- The moment whose parts are followed by its offset in seconds. -/
def readTaggedMoment (parts : List Value) : Except TagFault Moment :=
  match parts.getLast? with
  | some .null => readMoment parts.dropLast none
  | some (.int ahead) => readMoment parts.dropLast (some (ahead * microsecondsPerSecond))
  | _ => .error (.malformed "$datetime")

/-! The notation names neither enumerations nor their members, nor the class of a foreign object. -/

/-- The enumeration that a tagged member belongs to, by the word for what its members are besides. -/
def taggedEnumeration (word : Option Value) : Enumeration where
  className := "E"
  kind :=
    match word with
    | some (.text "str") => .text
    | some (.text "int") => .integer
    | _ => .plain

/-- The name of a tagged member. -/
def taggedMemberName : String := "M"

/-- How a tagged foreign object shows. -/
def taggedForeign : Appearance where
  className := "Opaque"
  reading := "<Opaque object>"
  literal? := some "<Opaque object>"

/-- The value of an object with the given tag; `content` stands under the tag.  Where it is of
another kind than the tag asks for, the object is a record like any other. -/
def readTagged (fields : List (String × Value)) (tag : String) (content : Value) :
    Except TagFault Value :=
  match tag, content with
  | "$float", .text text =>
    ((Binary64.read? text).map (.ok <| .float ·)).getD (.error (.invalidFloat text))
  | "$bytes", .text digits => (readOctets digits).map .bytes
  | "$bytearray", .text digits => (readOctets digits).map .byteArray
  | "$decimal", .text text =>
    ((Decimal.read? text).map (.ok <| .decimal ·)).getD (.error (.invalidDecimal text))
  | "$dn", .text text =>
    match DistinguishedName.parse text with
    | .ok name => .ok (.name name)
    | .error invalid => .error (.invalidName invalid)
  | "$rdns", .list items => .ok (.name ⟨items.filterMap Value.plainText?⟩)
  | "$datetime", .list parts => (readTaggedMoment parts).map .moment
  | "$date", .list parts => (readDate parts).map .date
  | "$enum", content =>
    ((taggedEnumeration (fields.lookup "mixin")).member taggedMemberName content).mapError
      .invalidMember
  | "$tuple", .list items => .ok (.tuple items)
  | "$param", .list [.int index, .text name] => .ok (.parameter ⟨index, name⟩)
  | "$object", _ => .ok (.foreign taggedForeign)
  | _, _ => .ok (.record fields)

/-- The tags. -/
def knownTags : List String :=
  ["$float", "$bytes", "$bytearray", "$decimal", "$dn", "$rdns", "$datetime", "$date", "$enum",
    "$tuple", "$param", "$object"]

/-- The value of an object whose fields have been read. -/
def readObject (fields : List (String × Value)) : Except TagFault Value :=
  match fields.find? (·.1 ∈ knownTags) with
  | some (tag, content) => readTagged fields tag content
  | none => .ok (.record fields)

namespace Value

mutual

/-- The value that a JSON document stands for. -/
def ofTagged : Json → Except TagFault Value
  | .null => .ok .null
  | .bool value => .ok (.bool value)
  | .int value => .ok (.int value)
  | .float value => .ok (.float value)
  | .text value => .ok (.text value)
  | .list items => (ofTaggedItems items).map .list
  | .object members => (ofTaggedMembers members).bind readObject

/-- The values that JSON documents stand for. -/
def ofTaggedItems : List Json → Except TagFault (List Value)
  | [] => .ok []
  | item :: rest => do
    let item ← ofTagged item
    let rest ← ofTaggedItems rest
    return item :: rest

/-- The fields that the members of a JSON object stand for. -/
def ofTaggedMembers : List (String × Json) → Except TagFault (List (String × Value))
  | [] => .ok []
  | (key, document) :: rest => do
    let value ← ofTagged document
    let rest ← ofTaggedMembers rest
    return (key, value) :: rest

end

end Value

end DirectoryQuery
