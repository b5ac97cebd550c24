/-
Module: DirectoryQuery.Entity.Basic
Purpose: Entities of a directory: how their properties map to attributes and form entry names.
Main exports:
  ValueType, Attribute, Unqueryable, Attribute.isQueryable, Entity, Entity.get?,
  Entity.queryableProperties, Entity.persistedAttributes, Entity.nameComponents
-/
import DirectoryQuery.Name.Basic

namespace DirectoryQuery

/-- The declared type of the values of a property. -/
inductive ValueType where
  | string
  | integer
  | boolean
  | binary
  | datetime
  | dn
deriving Repr, DecidableEq, Inhabited

namespace ValueType

/-- All types of values. -/
def all : List ValueType := [.string, .integer, .boolean, .binary, .datetime, .dn]

/-- The word for a type of values. -/
def text : ValueType → String
  | .string => "string"
  | .integer => "integer"
  | .boolean => "boolean"
  | .binary => "binary"
  | .datetime => "datetime"
  | .dn => "dn"

/-- The type of values that a word names. -/
def ofText? (word : String) : Option ValueType := all.find? (·.text == word)

theorem ofText?_text (type : ValueType) : ofText? type.text = some type := by
  cases type <;> decide

end ValueType

/-- A property of an entity and the directory attribute that holds it.  `componentIndex` is its
place in the entry name, counted from the base on. -/
structure Attribute where
  property : String
  attributeName : String
  multiValued : Bool
  componentIndex : Option Nat
  transient : Bool
  identifier : Bool
  valueType : ValueType
deriving Repr, DecidableEq, Inhabited

/-- Why a property cannot be queried: it stands for the entry name itself, or is never stored. -/
inductive Unqueryable where
  | identifier
  | transient
deriving Repr, DecidableEq

namespace Attribute

/-- Whether the property may stand in a filter. -/
def isQueryable (a : Attribute) : Bool := !(a.transient || a.identifier)

/-- Why the property may not stand in a filter. -/
def unqueryable? (a : Attribute) : Option Unqueryable :=
  if a.isQueryable then none
  else if a.identifier then some .identifier
  else some .transient

theorem unqueryable?_eq_none_iff {a : Attribute} :
    a.unqueryable? = none ↔ a.isQueryable = true := by
  unfold unqueryable?
  split
  · simp [*]
  · split <;> simp [*]

end Attribute

/-- A kind of directory entry: the object classes that mark its entries, its attributes in the order
of their declaration, and the name below which its entries are looked for. -/
structure Entity where
  name : String
  objectClasses : List String
  attributes : List Attribute
  base : DistinguishedName
deriving Repr, DecidableEq, Inhabited

namespace Entity

/-- The attribute of a property. -/
def get? (entity : Entity) (property : String) : Option Attribute :=
  entity.attributes.find? (·.property == property)

/-- The names of all properties. -/
def propertyNames (entity : Entity) : List String := entity.attributes.map (·.property)

/-- The names of the properties that may stand in a filter. -/
def queryableProperties (entity : Entity) : List String :=
  (entity.attributes.filter (·.isQueryable)).map (·.property)

/-- The attributes that a search asks for. -/
def persistedAttributes (entity : Entity) : List String :=
  (entity.attributes.filter (·.isQueryable)).map (·.attributeName)

/-- The property that holds the entry name. -/
def identifier? (entity : Entity) : Option Attribute := entity.attributes.find? (·.identifier)

/-- The order of name components. -/
def componentBefore (a b : Attribute) : Bool :=
  decide (a.componentIndex.getD 0 ≤ b.componentIndex.getD 0)

/-- The properties that entry names are made of, the one next to the base first. -/
def nameComponents (entity : Entity) : List Attribute :=
  (entity.attributes.filter (·.componentIndex.isSome)).mergeSort componentBefore

end Entity

end DirectoryQuery
