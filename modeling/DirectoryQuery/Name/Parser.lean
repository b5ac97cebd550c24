/-
Module: DirectoryQuery.Name.Parser
Purpose: Reading a distinguished name from its text.
Main exports:
  NameProblem, InvalidName, InvalidName.message, DistinguishedName.parse
-/
import DirectoryQuery.Name.Basic
import DirectoryQuery.Name.Separator
import DirectoryQuery.Text.Blank
import DirectoryQuery.Text.Quoted

namespace DirectoryQuery

open Text

/-- What makes a text no distinguished name. -/
inductive NameProblem where
  | emptyName
  | attributeMissing
  | attributeCharacter (c : Char)
  | attributeFirstCharacter (c : Char)
  | valueMissing (piece : String)
  | hexadecimalValue
  | unescapedCharacter (c : Char)
  | invalidEscape (c : Char)
  | invalidEnd
deriving Repr, DecidableEq

/-- A text that is no distinguished name, and why. -/
structure InvalidName where
  text : String
  problem : NameProblem
deriving Repr, DecidableEq

/-- The wording of a problem. -/
def NameProblem.message : NameProblem → String
  | .emptyName => "empty dn"
  | .attributeMissing => "attribute type not present"
  | .attributeCharacter c =>
    "character '" ++ String.singleton c ++ "' not allowed in attribute type"
  | .attributeFirstCharacter c =>
    "character '" ++ String.singleton c ++ "' not allowed as first character of attribute type"
  | .valueMissing piece => "unable to validate attribute value in " ++ piece
  | .hexadecimalValue => "character # not allowed in hex representation of attribute value"
  | .unescapedCharacter c => "special character " ++ String.singleton c ++ " must be escaped"
  | .invalidEscape c => "invalid escaped character " ++ String.singleton c
  | .invalidEnd => "invalid final character"

/-- The wording of the complaint about what is shown by a literal and is no distinguished name. -/
def invalidNameMessage (literal : String) (problem : NameProblem) : String :=
  "Invalid distinguished name " ++ literal ++ ": " ++ problem.message

/-- The wording of the complaint about a text that is no distinguished name. -/
def InvalidName.message (invalid : InvalidName) : String :=
  invalidNameMessage (quoted invalid.text) invalid.problem

namespace DistinguishedName

/-- An attribute, its value and how the next one is joined to it. -/
structure Assertion where
  attributeType : List Char
  value : List Char
  joint : Joint
deriving Repr, DecidableEq

/-- Splits the rest of a piece at the first equals sign without a backslash before it. -/
def splitAfter (previous : Char) : List Char → Option (List Char × List Char)
  | [] => none
  | c :: rest =>
    if c = '=' ∧ previous ≠ '\\' then
      some ([], rest)
    else
      (splitAfter c rest).map fun (attributeType, value) => (c :: attributeType, value)

/-- Splits a piece into attribute and value.  A piece that begins with an equals sign has none. -/
def splitPiece? : List Char → Option (List Char × List Char)
  | [] => none
  | c :: rest =>
    if c = '=' then none
    else (splitAfter c rest).map fun (attributeType, value) => (c :: attributeType, value)

/-- A character that attribute types are made of. -/
def isTypeChar (c : Char) : Bool := c.isAlphanum || c == '-'

/-- What is wrong with an attribute type.  One form for object identifiers is let through as it
is. -/
def attributeProblem? (attributeType : List Char) : Option NameProblem :=
  if attributeType = [] then some .attributeMissing
  else if attributeType = "<GUID".toList then none
  else
    match attributeType.find? (!isTypeChar ·) with
    | some c => some (.attributeCharacter c)
    | none =>
      match attributeType with
      | c :: _ => if c.isDigit ∨ c = '-' then some (.attributeFirstCharacter c) else none
      | [] => none

/-- A hexadecimal digit of either case. -/
def isHexDigit (c : Char) : Bool :=
  c.isDigit || ('a' ≤ c && c ≤ 'f') || ('A' ≤ c && c ≤ 'F')

/-- A character that must not stand unescaped in a value. -/
def needsEscape (c : Char) : Bool :=
  c == '\x22' || c == '#' || c == '+' || c == ',' || c == ';' || c == '<' || c == '=' || c == '>' ||
    c == '\x00'

/-- What the scan of a value expects next. -/
inductive ValueScan where
  | anything
  | escapeStart
  | secondHexDigit
deriving Repr, DecidableEq

/-- The first thing wrong with a value from some character on. -/
def valueProblemFrom? : ValueScan → List Char → Option NameProblem
  | .anything, [] => none
  | .escapeStart, [] => some .invalidEnd
  | .secondHexDigit, [] => some .invalidEnd
  | .anything, c :: rest =>
    if c = '\\' then valueProblemFrom? .escapeStart rest
    else if needsEscape c then some (.unescapedCharacter c)
    else valueProblemFrom? .anything rest
  | .escapeStart, c :: rest =>
    if isHexDigit c then valueProblemFrom? .secondHexDigit rest
    else if c = ' ' ∨ c = '\\' ∨ needsEscape c then valueProblemFrom? .anything rest
    else some (.invalidEscape c)
  | .secondHexDigit, c :: rest =>
    if isHexDigit c then valueProblemFrom? .anything rest else some (.invalidEscape c)

/-- What is wrong with a value; `piece` is the text that it stands in. -/
def valueProblem? (piece value : List Char) : Option NameProblem :=
  match value with
  | [] => some (.valueMissing (String.ofList piece))
  | c :: _ => if c = '#' then some .hexadecimalValue else valueProblemFrom? .anything value

/-- Reads one piece. -/
def readPiece (piece : Piece) : Except NameProblem Assertion :=
  let (attributeType, value) := (splitPiece? piece.text).getD ([], piece.text)
  let attributeType := trim attributeType
  let value := trim value
  match (attributeProblem? attributeType).or (valueProblem? piece.text value) with
  | some problem => .error problem
  | none => .ok ⟨attributeType, value, piece.joint⟩

/-- The text of an attribute and its value. -/
def Assertion.text (assertion : Assertion) : List Char :=
  assertion.attributeType ++ '=' :: assertion.value

theorem Assertion.text_ne_nil (assertion : Assertion) : assertion.text ≠ [] := by
  simp [Assertion.text]

/-- Groups what plus signs join into relative names.  `open?` is the text of the relative name that
a plus sign left unfinished. -/
def groupRdns : (open? : Option (List Char)) → List Assertion → List String
  | none, [] => []
  | some text, [] => [String.ofList text]
  | open?, assertion :: rest =>
    let text :=
      match open? with
      | some before => before ++ '+' :: assertion.text
      | none => assertion.text
    if assertion.joint = .plus then groupRdns (some text) rest
    else String.ofList text :: groupRdns none rest

/-- Reads the text of a name.  A blank text names the root. -/
def parse (text : String) : Except InvalidName DistinguishedName :=
  if trim text.toList = [] then
    .ok root
  else
    match cut text.toList with
    | [] => .error ⟨text, .emptyName⟩
    | pieces =>
      match pieces.mapM readPiece with
      | .ok assertions => .ok ⟨groupRdns none assertions⟩
      | .error problem => .error ⟨text, problem⟩

end DistinguishedName

end DirectoryQuery
