/-
Module: DirectoryQuery.Entity.SearchBase
Purpose: The names that searches and compositions start from.
Main exports:
  SearchBase, SearchBase.ofValue?, SearchBase.resolve, BaseProblem, BaseProblem.message
-/
import DirectoryQuery.Name.Parser
import DirectoryQuery.Value.Label

namespace DirectoryQuery

open Text

/-- A name to start from: a text still to be read, or a name.  Octets are a name only where they are
blank, and other values never are. -/
inductive SearchBase where
  | text (label : Label)
  | name (value : DistinguishedName)
  | octets (content : List UInt8)
  | foreign (kind : String)
deriving Repr, DecidableEq

/-- Why there is no name to start from. -/
inductive BaseProblem where
  | invalid (label : Label) (problem : NameProblem)
  | octets
  | foreign (kind : String)
deriving Repr, DecidableEq

/-- The wording of the complaint.  It shows a text as it is written, if that can be done. -/
def BaseProblem.message : BaseProblem → String
  | .invalid label problem =>
    match label.literal? with
    | some literal => invalidNameMessage literal problem
    | none => Numeric.unwrittenNumberMessage
  | .octets => "argument should be integer or bytes-like object, not 'str'"
  | .foreign kind => "'" ++ kind ++ "' object has no attribute 'strip'"

namespace SearchBase

/-- A base that is given as a plain text. -/
def plain (text : String) : SearchBase := .text (.plain text)

/-- The base that a value gives; null gives none. -/
def ofValue? (value : Value) : Option SearchBase :=
  match value with
  | .null => none
  | .name content => some (.name content)
  | .bytes content => some (.octets content)
  | .byteArray content => some (.octets content)
  | value =>
    match Label.ofValue? value with
    | some label => some (.text label)
    | none => some (.foreign value.qualifiedKindName)

/-- The name to start from. -/
def resolve : SearchBase → Except BaseProblem DistinguishedName
  | .text label =>
    (DistinguishedName.parse label.text).mapError fun invalid => .invalid label invalid.problem
  | .name value => .ok value
  | .octets content =>
    if content.all fun octet => isAsciiBlank (Char.ofNat octet.toNat) then .ok .root
    else .error .octets
  | .foreign kind => .error (.foreign kind)

end SearchBase

end DirectoryQuery
