/-
Module: DirectoryQuery.Entity.Composition
Purpose: Names of entries from the values of their name components.
Main exports:
  CompositionError, CompositionError.report, Entity.scopedBase, Entity.composeName
-/
import DirectoryQuery.Entity.Basic
import DirectoryQuery.Entity.SearchBase
import DirectoryQuery.Report

namespace DirectoryQuery

/-- Why values do not make up a name. -/
inductive CompositionError where
  | noComponents (entity : String)
  | missingValues (entity : String) (first : String) (others : List String)
  | invalidBase (problem : BaseProblem)
  | notAComponent (entity property : String)
  | noValue (entity property : String)
  | gap (entity property : String)
  | unwrittenNumber (property : String)
  | emptyPart (property : String)
deriving Repr, DecidableEq

namespace CompositionError

/-- The wording of the complaint. -/
def message : CompositionError → String
  | .noComponents entity => "Entity '" ++ entity ++ "' declares no DN components"
  | .missingValues entity first others =>
    "Missing DN component value(s) for '" ++ entity ++ "': " ++
      ", ".intercalate (first :: others)
  | .invalidBase problem => problem.message
  | .notAComponent entity property =>
    "'" ++ property ++ "' is not a DN component of '" ++ entity ++ "'"
  | .noValue entity property =>
    "DN component '" ++ property ++ "' of '" ++ entity ++ "' has no value"
  | .gap entity property =>
    "DN component values for '" ++ entity ++ "' must start at index 0 without gaps; '" ++
      property ++ "' is missing"
  | .unwrittenNumber _ => Numeric.unwrittenNumberMessage
  | .emptyPart _ => DistinguishedName.emptyPartMessage

/-- The property to blame. -/
def property? : CompositionError → Option String
  | .noComponents _ => none
  | .missingValues _ first _ => some first
  | .invalidBase _ => none
  | .notAComponent _ property => some property
  | .noValue _ property => some property
  | .gap _ property => some property
  | .unwrittenNumber property => some property
  | .emptyPart property => some property

/-- What a caller is told. -/
def report (error : CompositionError) : Report :=
  .uncompilable error.message (error.property?.map .plain)

end CompositionError

namespace Entity

/-- The value given for a name component, if one is given that is not null. -/
def suppliedValue? (values : List (String × Value)) (component : Attribute) : Option Value :=
  match values.lookup component.property with
  | some .null => none
  | found => found

/-- The first key whose value is null. -/
def nullKey? (values : List (String × Value)) : Option String :=
  (values.find? (·.2.isNull)).map (·.1)

/-- Puts the values of name components before a name, one after the other. -/
def descend (values : List (String × Value)) (name : DistinguishedName) :
    List Attribute → Except CompositionError DistinguishedName
  | [] => .ok name
  | component :: rest =>
    let value := suppliedValue? values component
    if value.any Value.isUnreadable then
      .error (.unwrittenNumber component.property)
    else
      match name.child? component.attributeName ((value.map Value.rdnText).getD "") with
      | some deeper => descend values deeper rest
      | none => .error (.emptyPart component.property)

/-- The name below `base` that the values of the first name components lead to.  Without a base the
one of the entity is taken. -/
def scopedBase (entity : Entity) (values : List (String × Value)) (base : Option SearchBase) :
    Except CompositionError DistinguishedName :=
  match (base.getD (.name entity.base)).resolve with
  | .error problem => .error (.invalidBase problem)
  | .ok start =>
    let components := entity.nameComponents
    match values.find? fun (key, _) => !(components.any (·.property == key)) with
    | some (key, _) => .error (.notAComponent entity.name key)
    | none =>
      match nullKey? values with
      | some key => .error (.noValue entity.name key)
      | none =>
        let supplied := components.filter (suppliedValue? values · |>.isSome)
        if supplied = components.take supplied.length then
          descend values start supplied
        else
          match components.find? (· ∉ supplied) with
          | some component => .error (.gap entity.name component.property)
          | none => descend values start supplied

/-- The name of the entry whose name components have the given values. -/
def composeName (entity : Entity) (values : List (String × Value)) (base : Option SearchBase) :
    Except CompositionError DistinguishedName :=
  match entity.nameComponents with
  | [] => .error (.noComponents entity.name)
  | components =>
    match components.filter (suppliedValue? values · |>.isNone) with
    | first :: others =>
      .error (.missingValues entity.name first.property (others.map (·.property)))
    | [] => entity.scopedBase values base

end Entity

end DirectoryQuery
