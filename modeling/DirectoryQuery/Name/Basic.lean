/-
Module: DirectoryQuery.Name.Basic
Purpose: Distinguished names as lists of relative names, and names one level deeper.
Main exports:
  DistinguishedName, DistinguishedName.text, DistinguishedName.escapeValue, DistinguishedName.child?
-/

namespace DirectoryQuery

/-- The name of a directory entry: its relative names in their escaped form, the leaf first.  The
empty name denotes the root of the directory. -/
structure DistinguishedName where
  rdns : List String
deriving Repr, DecidableEq, Inhabited

namespace DistinguishedName

/-- The name of the root. -/
def root : DistinguishedName := ⟨[]⟩

/-- Whether the name is that of the root. -/
def isRoot (name : DistinguishedName) : Bool := name.rdns.isEmpty

/-- The number of relative names. -/
def depth (name : DistinguishedName) : Nat := name.rdns.length

/-- The relative names with commas between them. -/
def text (name : DistinguishedName) : String := ",".intercalate name.rdns

/-- The characters with a meaning of their own in a relative name. -/
def isReserved (c : Char) : Bool :=
  c == '\\' || c == ',' || c == '+' || c == '\x22' || c == '<' || c == '>' || c == ';' ||
    c == '=' || c == '\x00'

/-- Puts a backslash before every reserved character. -/
def escapeReserved (value : List Char) : List Char :=
  value.flatMap fun c => if isReserved c then ['\\', c] else [c]

/-- Puts a backslash before a number sign or a space at the front. -/
def guardFront : List Char → List Char
  | [] => []
  | c :: rest => if c = '#' ∨ c = ' ' then '\\' :: c :: rest else c :: rest

/-- Puts a backslash before a space at the end. -/
def guardBack : List Char → List Char
  | [] => []
  | [c] => if c = ' ' then ['\\', ' '] else [c]
  | c :: d :: rest => c :: guardBack (d :: rest)

/-- The form in which a value stands in a relative name. -/
def escapeValue (value : List Char) : List Char := guardBack (guardFront (escapeReserved value))

/-- The relative name that gives `attribute` the value `value`. -/
def rdn (attributeType value : String) : String :=
  attributeType ++ "=" ++ String.ofList (escapeValue value.toList)

/-- The name one level below, or nothing if attribute or value is empty. -/
def child? (name : DistinguishedName) (attributeType value : String) : Option DistinguishedName :=
  if attributeType = "" ∨ value = "" then none else some ⟨rdn attributeType value :: name.rdns⟩

/-- The wording of the complaint about an empty attribute or value. -/
def emptyPartMessage : String := "RDN attribute and value must be non-empty"

end DistinguishedName

end DirectoryQuery
