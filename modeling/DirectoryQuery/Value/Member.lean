/-
Module: DirectoryQuery.Value.Member
Purpose: Making members of enumerations that are texts or whole numbers as well.
Main exports:
  MemberProblem, MemberProblem.message, Value.memberParts, textOf, numberOf, Appearance.ofMember,
  Enumeration, Enumeration.member
-/
import DirectoryQuery.Text.LetterCase
import DirectoryQuery.Value.WholeNumber

namespace DirectoryQuery

open Numeric Text

/-!
What stands for a member is what its text or number is made of.  A tuple stands for its items: a
text may be made of octets and the name of their encoding, and a number of a text and its base.
-/

/-- Why no member of an enumeration comes about. -/
inductive MemberProblem where
  | number (problem : NumberProblem)
  | tooManyParts (maker : String) (most given : Nat)
  | partNotText (part kind : String)
  | textDecoded
  | notDecodable (kind : String)
  | unknownEncoding (name : String)
  | baseNotWhole (kind : String)
  | baseOutOfRange
deriving Repr, DecidableEq

namespace MemberProblem

/-- The wording of the complaint. -/
def message : MemberProblem → String
  | .number problem => problem.message
  | .tooManyParts maker most given =>
    maker ++ "() takes at most " ++ toString most ++ " arguments (" ++ toString given ++ " given)"
  | .partNotText part kind => "str() argument '" ++ part ++ "' must be str, not " ++ kind
  | .textDecoded => "decoding str is not supported"
  | .notDecodable kind => "decoding to str: need a bytes-like object, " ++ kind ++ " found"
  | .unknownEncoding name => "unknown encoding: " ++ name
  | .baseNotWhole kind => "'" ++ kind ++ "' object cannot be interpreted as an integer"
  | .baseOutOfRange => "int() base must be >= 2 and <= 36, or 0"

/-- Whether a part was of a kind that no member is made of, or there were too many of them. -/
def isMismatch : MemberProblem → Bool
  | .number problem => problem.isMismatch
  | .unknownEncoding _ | .baseOutOfRange => false
  | _ => true

end MemberProblem

/-- The octets that a value is. -/
def Value.octets? : Value → Option (List UInt8)
  | .bytes octets => some octets
  | .byteArray octets => some octets
  | _ => none

/-- The whole number that a value is, as opposed to what it may be read as. -/
def Value.ownNumber? : Value → Option Int
  | .int value => some value
  | .bool value => some (if value then 1 else 0)
  | .member _ (.integer own) _ => some own
  | _ => none

/-- The names that the encoding of Unicode in octets goes by. -/
def unicodeEncodings : List String := ["utf-8", "utf_8", "utf8", "u8"]

/-- The text that octets are in an encoding. -/
def decoded? (octets : List UInt8) (encoding : String) : Option String :=
  if octets = [] then some ""
  else if lowercase encoding ∈ unicodeEncodings then
    String.fromUTF8? (ByteArray.mk octets.toArray)
  else
    none

/-- The text that a part must be. -/
def textPart (part : String) (value : Value) : Except MemberProblem String :=
  match value.asText? with
  | some text => .ok text
  | none => .error (.partNotText part (if value.isNull then "None" else value.qualifiedKindName))

/-- The text that a value is in an encoding. -/
def decodedText (value : Value) (encoding : String) : Except MemberProblem String :=
  match value.octets?, value.asText? with
  | some octets, _ => (decoded? octets encoding).elim (.error (.unknownEncoding encoding)) .ok
  | none, some _ => .error .textDecoded
  | none, none => .error (.notDecodable value.qualifiedKindName)

/-- The text made of parts: the empty text of none, the reading of a lone one, and what octets are
in an encoding.  A third part names how to go on where they are nothing; it is not needed here. -/
def textOf : List Value → Except MemberProblem String
  | [] => .ok ""
  | [value] => .ok value.reading
  | [value, encoding] => do decodedText value (← textPart "encoding" encoding)
  | [value, encoding, fallback] => do
    let encoding ← textPart "encoding" encoding
    let _ ← textPart "errors" fallback
    decodedText value encoding
  | parts => .error (.tooManyParts "str" 3 parts.length)

/-- The base that a whole number is: none, which is zero, or one from two to thirty-six. -/
def baseOf? (base : Int) : Option Nat :=
  if base = 0 ∨ (2 ≤ base ∧ base ≤ 36) then some base.toNat else none

/-- The whole number made of parts: zero of none, what a lone one stands for, what a text or octets
write in a base. -/
def numberOf : List Value → Except MemberProblem Int
  | [] => .ok 0
  | [value] => value.wholeNumber.mapError .number
  | [value, base] =>
    match base.ownNumber? with
    | none => .error (.baseNotWhole base.qualifiedKindName)
    | some number =>
      match baseOf? number with
      | none => .error .baseOutOfRange
      | some base => (value.wholeNumberIn base).mapError .number
  | parts => .error (.tooManyParts "int" 2 parts.length)

/-- The parts that a member is made of. -/
def Value.memberParts : Value → List Value
  | .tuple items => items
  | value => [value]

/-- How a member of an enumeration shows where its class says nothing else: by the names of the class
and of the member, and inside other values by its value as well. -/
def Appearance.ofMember (className name : String) (value : Value) : Appearance where
  className := className
  reading := className ++ "." ++ name
  literal? :=
    if value.isUnwritable then none
    else some ("<" ++ className ++ "." ++ name ++ ": " ++ value.literal ++ ">")

/-- What the members of an enumeration are besides names for their values. -/
inductive EnumerationKind where
  | plain
  | text
  | integer
deriving Repr, DecidableEq

/-- An enumeration whose class says nothing about how its members show or what they stand for. -/
structure Enumeration where
  className : String
  kind : EnumerationKind
deriving Repr, DecidableEq

/-- The member of an enumeration with the given name, made of a value.  A member that is a text or a
number as well stands for that text or number. -/
def Enumeration.member (enumeration : Enumeration) (name : String) (content : Value) :
    Except MemberProblem Value :=
  let made (kind : MemberKind) (value : Value) : Value :=
    .member (.ofMember enumeration.className name value) kind value
  match enumeration.kind with
  | .plain => .ok (made .plain content)
  | .text => (textOf content.memberParts).map fun text => made (.text text) (.text text)
  | .integer => (numberOf content.memberParts).map fun number => made (.integer number) (.int number)

end DirectoryQuery
