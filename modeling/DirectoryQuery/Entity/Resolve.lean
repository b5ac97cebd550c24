/-
Module: DirectoryQuery.Entity.Resolve
Purpose: Turning the description of an entity into the entity, or telling what is inconsistent.
Main exports:
  isAttributeName, MappingFault, MappingError, MappingError.report, Entity.resolve
-/
import DirectoryQuery.Entity.Descriptor
import DirectoryQuery.Name.Parser
import DirectoryQuery.Report
import DirectoryQuery.Text.Split
import DirectoryQuery.Text.Word

namespace DirectoryQuery

open Text

/-! ### Attribute names -/

/-- A character that keywords are made of. -/
def isKeywordChar (c : Char) : Bool := c.isAlphanum || c == '-'

/-- A short name: a letter, then letters, digits and hyphens. -/
def isShortName : List Char → Bool
  | [] => false
  | c :: rest => c.isAlpha && rest.all isKeywordChar

/-- An object identifier: two or more decimal numbers with points between them. -/
def isObjectIdentifier (text : List Char) : Bool :=
  let (first, others) := split '.' text
  !others.isEmpty && (first :: others).all fun arc => !arc.isEmpty && arc.all isDecimalDigit

/-- An attribute name: a short name or an object identifier, and options behind semicolons. -/
def isAttributeName (text : String) : Bool :=
  let (type, options) := split ';' text.toList
  (isShortName type || isObjectIdentifier type) &&
    options.all fun option => !option.isEmpty && option.all isKeywordChar

/-! ### Consistency -/

/-- The attribute name that a description gives a property: its own name if none other is given. -/
def PropertyDescriptor.effectiveAttribute (property : PropertyDescriptor) : String :=
  match property.attributeName with
  | some name => if name = "" then property.name else name
  | none => property.name

/-- The attribute that a description of a property stands for. -/
def PropertyDescriptor.resolve (property : PropertyDescriptor) : Attribute where
  property := property.name
  attributeName := property.effectiveAttribute
  multiValued := property.multiValued
  componentIndex := property.componentIndex
  transient := property.transient
  identifier := property.identifier
  valueType := property.valueType

/-- What makes the description of an entity inconsistent. -/
inductive MappingFault where
  | noObjectClass
  | duplicateProperty (property : String)
  | invalidAttributeName (property attributeName : String)
  | identifierCount (count : Nat)
  | transientIdentifier (property : String)
  | identifierType (property : String) (type : ValueType)
  | identifierComponent (property : String)
  | transientComponent (property : String)
  | sharedComponent (first second : String) (index : Nat)
  | componentGap (indices : List Nat)
  | invalidBase (invalid : InvalidName)
deriving Repr, DecidableEq

/-- An inconsistent description of the named entity. -/
structure MappingError where
  entity : String
  fault : MappingFault
deriving Repr, DecidableEq

/-- The wording of a fault.  Indices and counts are written out however many digits they have: the
limit on written numbers is left out here. -/
def MappingFault.message : MappingFault → String
  | .noObjectClass => "at least one non-empty object class is required"
  | .duplicateProperty property => "duplicate property '" ++ property ++ "'"
  | .invalidAttributeName property attributeName =>
    "property '" ++ property ++ "' maps to invalid attribute name '" ++ attributeName ++ "'"
  | .identifierCount count =>
    "exactly one identifier property is required, found " ++ toString count
  | .transientIdentifier property => "identifier '" ++ property ++ "' cannot be transient"
  | .identifierType property type =>
    "identifier '" ++ property ++ "' must have value type 'dn', not '" ++ type.text ++ "'"
  | .identifierComponent property => "identifier '" ++ property ++ "' cannot be a DN component"
  | .transientComponent property =>
    "transient property '" ++ property ++ "' cannot be a DN component"
  | .sharedComponent first second index =>
    "properties '" ++ first ++ "' and '" ++ second ++ "' share DN component index " ++
      toString index
  | .componentGap indices =>
    "DN component indices must be contiguous from 0, got [" ++
      ", ".intercalate (indices.map toString) ++ "]"
  | .invalidBase invalid => invalid.message

/-- What a caller is told about an inconsistent description. -/
def MappingError.report (error : MappingError) : Report :=
  .mapping error.fault.message (some error.entity)

namespace Entity

/-- The first fault among the properties that repeats an earlier name. -/
def duplicateFault? : (seen : List String) → List PropertyDescriptor → Option MappingFault
  | _, [] => none
  | seen, property :: rest =>
    if property.name ∈ seen then some (.duplicateProperty property.name)
    else duplicateFault? (property.name :: seen) rest

/-- The first fault among the attribute names. -/
def attributeNameFault? (properties : List PropertyDescriptor) : Option MappingFault :=
  (properties.find? (!isAttributeName ·.effectiveAttribute)).map fun property =>
    .invalidAttributeName property.name property.effectiveAttribute

/-- A fault of the identifier: there is exactly one, it is stored as the entry name, and it is no
part of that name. -/
def identifierFault? (properties : List PropertyDescriptor) : Option MappingFault :=
  match properties.filter (·.identifier) with
  | [property] =>
    if property.transient then some (.transientIdentifier property.name)
    else if property.valueType ≠ .dn then some (.identifierType property.name property.valueType)
    else if property.componentIndex.isSome then some (.identifierComponent property.name)
    else none
  | identifiers => some (.identifierCount identifiers.length)

/-- The first fault among the name components, given those passed so far with their indices. -/
def componentFaultAfter? : (seen : List (Nat × String)) → List PropertyDescriptor →
    Option MappingFault
  | _, [] => none
  | seen, property :: rest =>
    match property.componentIndex with
    | none => componentFaultAfter? seen rest
    | some index =>
      if property.transient then some (.transientComponent property.name)
      else
        match seen.lookup index with
        | some first => some (.sharedComponent first property.name index)
        | none => componentFaultAfter? ((index, property.name) :: seen) rest

/-- The indices of the name components in increasing order. -/
def componentIndices (properties : List PropertyDescriptor) : List Nat :=
  (properties.filterMap (·.componentIndex)).mergeSort

/-- A fault of the name components: their indices count from zero without gap or repetition. -/
def componentFault? (properties : List PropertyDescriptor) : Option MappingFault :=
  (componentFaultAfter? [] properties).or <|
    let indices := componentIndices properties
    if indices = List.range indices.length then none else some (.componentGap indices)

/-- The object classes of a description without white space around them. -/
def trimmedClasses (descriptor : EntityDescriptor) : List String :=
  descriptor.objectClasses.map trimmed

/-- The first fault of a description, the base apart. -/
def fault? (descriptor : EntityDescriptor) : Option MappingFault :=
  let classes := trimmedClasses descriptor
  if classes = [] ∨ "" ∈ classes then some .noObjectClass
  else
    (duplicateFault? [] descriptor.properties)
      |>.or (attributeNameFault? descriptor.properties)
      |>.or (identifierFault? descriptor.properties)
      |>.or (componentFault? descriptor.properties)

/-- The entity that a description stands for. -/
def resolve (descriptor : EntityDescriptor) : Except MappingError Entity :=
  match fault? descriptor with
  | some fault => .error ⟨descriptor.name, fault⟩
  | none =>
    match DistinguishedName.parse (descriptor.base.getD "") with
    | .error invalid => .error ⟨descriptor.name, .invalidBase invalid⟩
    | .ok base =>
      .ok
        { name := descriptor.name
          objectClasses := trimmedClasses descriptor
          attributes := descriptor.properties.map PropertyDescriptor.resolve
          base := base }

end Entity

end DirectoryQuery
