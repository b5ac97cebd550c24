/-
Module: DirectoryQuery.Entity.Descriptor
Purpose: Descriptions of entities, and reading them from JSON documents.
Main exports:
  PropertyDescriptor, EntityDescriptor, Violation, Checked, EntityDescriptor.ofJson
-/
import DirectoryQuery.Entity.Basic
import DirectoryQuery.Json.Basic
import DirectoryQuery.Numeric.Padded

namespace DirectoryQuery

open Numeric Text

/-- The description of a property.  Without an attribute name of its own the property is stored
under its own name. -/
structure PropertyDescriptor where
  name : String
  attributeName : Option String := none
  multiValued : Bool := false
  componentIndex : Option Nat := none
  transient : Bool := false
  identifier : Bool := false
  valueType : ValueType := .string
deriving Repr, DecidableEq, Inhabited

/-- The description of an entity. -/
structure EntityDescriptor where
  name : String
  objectClasses : List String
  base : Option String := none
  properties : List PropertyDescriptor
deriving Repr, DecidableEq, Inhabited

/-! ### Violations of the form of a description -/

/-- A step from a document to a part of it. -/
inductive PathStep where
  | key (name : String)
  | index (position : Nat)
deriving Repr, DecidableEq

/-- What is wrong with a part of a document. -/
inductive ViolationKind where
  | missing
  | notAnObject
  | unknownKey
  | notAText
  | emptyText
  | notAList
  | notABool
  | unreadableBool
  | notAnInteger
  | unreadableInteger
  | oversizedInteger
  | fractionalInteger
  | infiniteInteger
  | negativeInteger
  | unknownChoice
deriving Repr, DecidableEq

/-- A part of a document that violates the form of a description. -/
structure Violation where
  path : List PathStep
  kind : ViolationKind
deriving Repr, DecidableEq

/-- The code word for a kind of violation. -/
def ViolationKind.code : ViolationKind → String
  | .missing => "missing"
  | .notAnObject => "model_type"
  | .unknownKey => "extra_forbidden"
  | .notAText => "string_type"
  | .emptyText => "string_too_short"
  | .notAList => "list_type"
  | .notABool => "bool_type"
  | .unreadableBool => "bool_parsing"
  | .notAnInteger => "int_type"
  | .unreadableInteger => "int_parsing"
  | .oversizedInteger => "int_parsing_size"
  | .fractionalInteger => "int_from_float"
  | .infiniteInteger => "finite_number"
  | .negativeInteger => "greater_than_equal"
  | .unknownChoice => "enum"

/-- The outcome of checking a document: what was read, or all violations in order. -/
abbrev Checked (α : Type) := Except (List Violation) α

namespace Checked

/-- A single violation of the document itself. -/
def violated {α : Type} (kind : ViolationKind) : Checked α := .error [⟨[], kind⟩]

/-- The violations of an outcome. -/
def violations {α : Type} : Checked α → List Violation
  | .ok _ => []
  | .error found => found

/-- Joins two outcomes; the violations of the first come first. -/
def and {α β : Type} (first : Checked α) (second : Checked β) : Checked (α × β) :=
  match first, second with
  | .ok a, .ok b => .ok (a, b)
  | first, second => .error (violations first ++ violations second)

/-- Names the part of the document that an outcome is about. -/
def under {α : Type} (step : PathStep) (outcome : Checked α) : Checked α :=
  outcome.mapError (·.map fun violation => { violation with path := step :: violation.path })

end Checked

/-! ### Parts of a description -/

/-- Checks a text. -/
def checkText : Json → Checked String
  | .text value => .ok value
  | _ => .violated .notAText

/-- Checks a text that must not be empty. -/
def checkName (document : Json) : Checked String :=
  match checkText document with
  | .ok value => if value = "" then .violated .emptyText else .ok value
  | .error found => .error found

/-- Checks a part that may be null. -/
def checkOptional {α : Type} (check : Json → Checked α) : Json → Checked (Option α)
  | .null => .ok none
  | document => (check document).map some

/-- The words for true. -/
def trueWords : List String := ["1", "on", "t", "true", "y", "yes"]

/-- The words for false. -/
def falseWords : List String := ["0", "off", "f", "false", "n", "no"]

/-- The least power of two that does not fit into 64 bits with a sign. -/
def machineWordBound : Int := 9223372036854775808

/-- Whether a whole number fits into 64 bits with a sign. -/
def fitsMachineWord (value : Int) : Bool := -machineWordBound ≤ value && value < machineWordBound

/-- Whether the whole value of a floating point number lies inside the bounds of 64 bits with a
sign.  The bounds themselves are left out, since values beyond them may have been rounded to them.
-/
def liesInMachineWord (value : Int) : Bool := -machineWordBound < value && value < machineWordBound

/-- The truth value that a whole number stands for. -/
def checkBoolNumber (value : Int) : Checked Bool :=
  if value = 0 then .ok false
  else if value = 1 then .ok true
  else .violated .unreadableBool

/-- Checks a truth value: a JSON one, zero or one, or a word for it in any letter case. -/
def checkBool : Json → Checked Bool
  | .bool value => .ok value
  | .int value => if fitsMachineWord value then checkBoolNumber value else .violated .notABool
  | .float value =>
    match value.truncate? with
    | some whole =>
      if value.isIntegral && liesInMachineWord whole then checkBoolNumber whole
      else .violated .notABool
    | none => .violated .notABool
  | .text value =>
    let word := String.ofList (value.toList.map Char.toLower)
    if word ∈ trueWords then .ok true
    else if word ∈ falseWords then .ok false
    else .violated .unreadableBool
  | _ => .violated .notABool

/-- Checks a whole number: a JSON one, a truth value, a number without fraction or a text. -/
def checkInteger : Json → Checked Int
  | .int value => .ok value
  | .bool value => .ok (if value then 1 else 0)
  | .float value =>
    match value.truncate? with
    | none => .violated .infiniteInteger
    | some whole =>
      if !value.isIntegral then .violated .fractionalInteger
      else if liesInMachineWord whole then .ok whole
      else .violated .oversizedInteger
  | .text value =>
    match readPaddedInteger value.toList with
    | .ok whole => .ok whole
    | .error .unreadable => .violated .unreadableInteger
    | .error (.oversized _) => .violated .oversizedInteger
  | _ => .violated .notAnInteger

/-- Checks a whole number that must not be negative. -/
def checkNatural (document : Json) : Checked Nat :=
  match checkInteger document with
  | .ok whole => if whole < 0 then .violated .negativeInteger else .ok whole.toNat
  | .error found => .error found

/-- Checks the word for a type of values. -/
def checkValueType : Json → Checked ValueType
  | .text word =>
    match ValueType.ofText? word with
    | some type => .ok type
    | none => .violated .unknownChoice
  | _ => .violated .unknownChoice

/-- Checks the items of a list from a position on. -/
def checkItems {α : Type} (check : Json → Checked α) (position : Nat) :
    List Json → Checked (List α)
  | [] => .ok []
  | item :: rest =>
    (((check item).under (.index position)).and (checkItems check (position + 1) rest)).map
      fun (first, others) => first :: others

/-- Checks a list. -/
def checkList {α : Type} (check : Json → Checked α) : Json → Checked (List α)
  | .list items => checkItems check 0 items
  | _ => .violated .notAList

/-- Checks a member that must be there. -/
def required {α : Type} (members : List (String × Json)) (key : String)
    (check : Json → Checked α) : Checked α :=
  (match members.lookup key with
    | some document => check document
    | none => .violated .missing).under (.key key)

/-- Checks a member that has a default. -/
def defaulted {α : Type} (members : List (String × Json)) (key : String) (default : α)
    (check : Json → Checked α) : Checked α :=
  match members.lookup key with
  | some document => (check document).under (.key key)
  | none => .ok default

/-- Checks that all keys are known. -/
def knownKeys (known : List String) (members : List (String × Json)) : Checked Unit :=
  match (members.map (·.1)).filter (· ∉ known) with
  | [] => .ok ()
  | unknown => .error (unknown.map fun key => ⟨[.key key], .unknownKey⟩)

/-- The keys of the description of a property. -/
def propertyKeys : List String :=
  ["name", "attribute", "multi_valued", "dn_component_index", "transient", "identifier",
    "value_type"]

/-- The keys of the description of an entity. -/
def entityKeys : List String := ["name", "object_classes", "base", "properties"]

/-- Checks the description of a property. -/
def PropertyDescriptor.ofJson : Json → Checked PropertyDescriptor
  | .object members =>
    (required members "name" checkName
      |>.and (defaulted members "attribute" none (checkOptional checkText))
      |>.and (defaulted members "multi_valued" false checkBool)
      |>.and (defaulted members "dn_component_index" none (checkOptional checkNatural))
      |>.and (defaulted members "transient" false checkBool)
      |>.and (defaulted members "identifier" false checkBool)
      |>.and (defaulted members "value_type" .string checkValueType)
      |>.and (knownKeys propertyKeys members)).map
      fun (((((((name, attributeName), multiValued), componentIndex), transient), identifier),
          valueType), ()) =>
        { name, attributeName, multiValued, componentIndex, transient, identifier, valueType }
  | _ => .violated .notAnObject

/-- Checks the description of an entity. -/
def EntityDescriptor.ofJson : Json → Checked EntityDescriptor
  | .object members =>
    (required members "name" checkName
      |>.and (required members "object_classes" (checkList checkText))
      |>.and (defaulted members "base" none (checkOptional checkText))
      |>.and (required members "properties" (checkList PropertyDescriptor.ofJson))
      |>.and (knownKeys entityKeys members)).map
      fun ((((name, objectClasses), base), properties), ()) =>
        { name, objectClasses, base, properties }
  | _ => .violated .notAnObject

end DirectoryQuery
