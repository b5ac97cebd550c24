/-
Module: DirectoryQuery.Proofs.Entity.Layout
Purpose: The entity that a description resolves to: its name components stand at the places of their
  indices, and its properties are looked up and selected as they were described.  Exactly the
  consistent descriptions resolve.
Main exports:
  Entity.map_componentIndex_nameComponents, Entity.IsLaidOut, Entity.resolve_exact
-/
import DirectoryQuery.Proofs.Entity.Built

namespace DirectoryQuery

namespace Entity

variable {descriptor : EntityDescriptor} {entity : Entity}

/-! ### Name components -/

theorem componentBefore_iff {a b : Attribute} :
    componentBefore a b = true ↔ a.componentIndex.getD 0 ≤ b.componentIndex.getD 0 := by
  rw [componentBefore, decide_eq_true_iff]

theorem pairwise_nameComponents (entity : Entity) :
    entity.nameComponents.Pairwise fun a b =>
      a.componentIndex.getD 0 ≤ b.componentIndex.getD 0 := by
  have transitive : ∀ a b c, componentBefore a b = true → componentBefore b c = true →
      componentBefore a c = true := by
    intro a b c first second
    rw [componentBefore_iff] at *
    exact first.trans second
  have total : ∀ a b, (componentBefore a b || componentBefore b a) = true := by
    intro a b
    rw [Bool.or_eq_true, componentBefore_iff, componentBefore_iff]
    exact Nat.le_total _ _
  exact (List.pairwise_mergeSort transitive total _).imp componentBefore_iff.1

theorem perm_map_nameComponents (entity : Entity) :
    (entity.nameComponents.map (·.componentIndex.getD 0)).Perm
      (entity.attributes.filterMap (·.componentIndex)) := by
  have indices : (entity.attributes.filter (·.componentIndex.isSome)).map
      (·.componentIndex.getD 0) = entity.attributes.filterMap (·.componentIndex) := by
    induction entity.attributes with
    | nil => rfl
    | cons found rest ih =>
        cases indexed : found.componentIndex <;> simp [indexed, ih]
  rw [← indices]
  exact (List.mergeSort_perm _ _).map _

/-- If the indices are the first numbers in some order, then each name component stands at the place
of its index. -/
theorem map_componentIndex_nameComponents {count : Nat}
    (counted : (entity.attributes.filterMap (·.componentIndex)).Perm (List.range count)) :
    entity.nameComponents.map (·.componentIndex) = (List.range count).map some := by
  have ranks : entity.nameComponents.map (·.componentIndex.getD 0) = List.range count := by
    apply List.Perm.eq_of_pairwise (fun _ _ _ _ => Nat.le_antisymm)
      (List.pairwise_map.2 entity.pairwise_nameComponents) List.pairwise_le_range
    exact entity.perm_map_nameComponents.trans counted
  rw [← ranks, List.map_map]
  apply List.map_congr_left
  intro component listed
  have indexed := List.of_mem_filter ((List.mergeSort_perm _ _).mem_iff.1 listed)
  obtain ⟨index, indexed⟩ := Option.isSome_iff_exists.1 indexed
  rw [Function.comp_apply, indexed, Option.getD_some]

/-! ### Look-ups -/

variable {properties : List PropertyDescriptor}

theorem identifier?_eq_of_filter {property : PropertyDescriptor}
    (same : entity.attributes = properties.map PropertyDescriptor.resolve)
    (single : properties.filter (·.identifier) = [property]) :
    entity.identifier? = some property.resolve := by
  have first : properties.find? (·.identifier) = some property := by
    rw [← List.head?_filter, single]
    rfl
  rw [identifier?, same, List.find?_map]
  exact congrArg (Option.map PropertyDescriptor.resolve) first

theorem propertyNames_eq (same : entity.attributes = properties.map PropertyDescriptor.resolve) :
    entity.propertyNames = properties.map (·.name) := by
  rw [propertyNames, same, List.map_map]
  rfl

/-- The attributes that may stand in filters are those of the properties that are neither transient
nor the identifier. -/
theorem filter_isQueryable_eq
    (same : entity.attributes = properties.map PropertyDescriptor.resolve) :
    entity.attributes.filter (·.isQueryable) =
      (properties.filter fun property => !(property.transient || property.identifier)).map
        PropertyDescriptor.resolve := by
  rw [same, List.filter_map]
  rfl

/-- An entity is laid out as described if its name components stand at the places of their indices,
its identifier is the described one, and its properties are looked up and selected by what is said of
them, in the order of their description. -/
structure IsLaidOut (entity : Entity) (properties : List PropertyDescriptor) : Prop where
  componentCount :
    entity.nameComponents.length = (properties.filterMap (·.componentIndex)).length
  componentAt : ∀ {rank : Nat} {component : Attribute},
    entity.nameComponents[rank]? = some component → component.componentIndex = some rank
  component : ∀ {component : Attribute}, component ∈ entity.nameComponents ↔
    ∃ property ∈ properties, property.componentIndex.isSome = true ∧ property.resolve = component
  identifier : ∃ property ∈ properties, property.identifier = true ∧
    entity.identifier? = some property.resolve ∧
    ∀ other ∈ properties, other.identifier = true → other = property
  found : ∀ property ∈ properties, entity.get? property.name = some property.resolve
  absent : ∀ {name : String}, (∀ property ∈ properties, property.name ≠ name) →
    entity.get? name = none
  queryable : entity.queryableProperties =
    (properties.filter fun property => !(property.transient || property.identifier)).map (·.name)
  persisted : entity.persistedAttributes =
    (properties.filter fun property => !(property.transient || property.identifier)).map
      (·.effectiveAttribute)

theorem isLaidOut_of_isConsistent (consistent : descriptor.IsConsistent)
    (same : entity.attributes = descriptor.properties.map PropertyDescriptor.resolve) :
    entity.IsLaidOut descriptor.properties := by
  obtain ⟨count, counted⟩ := consistent.components
  have indices : entity.attributes.filterMap (·.componentIndex) =
      descriptor.properties.filterMap (·.componentIndex) := by
    rw [same, List.filterMap_map]
    rfl
  have placed := map_componentIndex_nameComponents (indices ▸ counted)
  have names := propertyNames_eq same
  obtain ⟨property, single, -⟩ := consistent.identifier
  have chosen : ∀ {other}, other ∈ descriptor.properties ∧ other.identifier = true ↔
      other = property := by
    intro other
    rw [← List.mem_filter, single, List.mem_singleton]
  constructor
  case componentCount =>
    have length := congrArg List.length placed
    rw [counted.length_eq]
    simpa using length
  case componentAt =>
    intro rank component listed
    have index := congrArg (·[rank]?) placed
    simp only [List.getElem?_map, listed, Option.map_some] at index
    obtain ⟨place, ranged, indexed⟩ := Option.map_eq_some_iff.1 index.symm
    obtain ⟨bound, rfl⟩ := List.getElem?_eq_some_iff.1 ranged
    rw [← indexed, List.getElem_range]
  case component =>
    intro component
    rw [mem_nameComponents_iff, same, List.mem_map]
    constructor
    · rintro ⟨⟨property, listed, rfl⟩, indexed⟩
      exact ⟨property, listed, indexed, rfl⟩
    · rintro ⟨property, listed, indexed, rfl⟩
      exact ⟨⟨property, listed, rfl⟩, indexed⟩
  case identifier =>
    obtain ⟨listed, marked⟩ := chosen.2 rfl
    exact ⟨property, listed, marked, identifier?_eq_of_filter same single,
      fun other listed marked => chosen.1 ⟨listed, marked⟩⟩
  case found =>
    intro property listed
    rw [get?_eq_some_iff_of_nodup (names ▸ consistent.names), same]
    exact ⟨List.mem_map_of_mem listed, rfl⟩
  case absent =>
    intro name absent
    rw [get?, List.find?_eq_none, same]
    intro found held
    obtain ⟨property, listed, rfl⟩ := List.mem_map.1 held
    simpa [PropertyDescriptor.resolve] using absent property listed
  case queryable =>
    rw [queryableProperties, filter_isQueryable_eq same, List.map_map]
    rfl
  case persisted =>
    rw [persistedAttributes, filter_isQueryable_eq same, List.map_map]
    rfl

/-- Exactly the consistent descriptions resolve, and the entities that they resolve to are laid out
as described; any other description is refused as that of the named entity. -/
theorem resolve_exact (descriptor : EntityDescriptor) :
    ((∃ entity, resolve descriptor = .ok entity) ↔ descriptor.IsConsistent) ∧
      (¬descriptor.IsConsistent →
        ∃ fault, resolve descriptor = .error ⟨descriptor.name, fault⟩) ∧
      ∀ entity, resolve descriptor = .ok entity →
        entity.attributes = descriptor.properties.map PropertyDescriptor.resolve ∧
          entity.IsLaidOut descriptor.properties := by
  refine ⟨exists_resolve_iff, resolve_eq_error_of_not_isConsistent, ?_⟩
  intro entity resolved
  obtain ⟨consistent, base, -, rfl⟩ := resolve_eq_ok_iff.1 resolved
  exact ⟨rfl, isLaidOut_of_isConsistent consistent rfl⟩

end Entity

/-! ### An example -/

/-- The description of an account: its name components are described in another order than they
stand in the name, one attribute name is an object identifier with an option, and there is only a
blank base. -/
def EntityDescriptor.account : EntityDescriptor where
  name := "Account"
  objectClasses := ["account", " top\n"]
  base := some " "
  properties := [
    { name := "uid", componentIndex := some 1 },
    { name := "dn", identifier := true, valueType := .dn },
    { name := "unit", attributeName := some "2.5.4.11;x-unit", componentIndex := some 0 },
    { name := "secret", attributeName := some "", transient := true }]

namespace Entity

theorem isConsistent_account : EntityDescriptor.account.IsConsistent where
  someClass := by decide
  classes := by decide
  names := by decide
  attributes := by
    have checked : ∀ property ∈ EntityDescriptor.account.properties,
        DirectoryQuery.isAttributeName property.effectiveAttribute = true := by decide
    exact fun property listed => isAttributeName_iff_mem.1 (checked property listed)
  identifier := ⟨_, rfl, rfl, rfl, rfl⟩
  stored := by decide
  components := ⟨2, by decide⟩
  base := by
    rintro text ⟨⟩
    exact .inl (by decide)

theorem resolve_exact_account :
    ∃ entity, resolve EntityDescriptor.account = .ok entity ∧
      entity.nameComponents[0]?.map (·.attributeName) = some "2.5.4.11;x-unit" ∧
      entity.nameComponents.length = 2 ∧ entity.queryableProperties = ["uid", "unit"] := by
  obtain ⟨resolves, -, built⟩ := resolve_exact EntityDescriptor.account
  obtain ⟨entity, resolved⟩ := resolves.2 isConsistent_account
  obtain ⟨-, laidOut⟩ := built entity resolved
  have two : entity.nameComponents.length = 2 := laidOut.componentCount
  have first : 0 < entity.nameComponents.length := by omega
  refine ⟨entity, resolved, ?_, two, laidOut.queryable⟩
  have listed := List.getElem?_eq_getElem first
  have index := laidOut.componentAt listed
  obtain ⟨property, described, -, resolution⟩ := laidOut.component.1 (List.getElem_mem first)
  rw [← resolution] at index
  have unit : ∀ property ∈ EntityDescriptor.account.properties,
      property.resolve.componentIndex = some 0 →
        property.resolve.attributeName = "2.5.4.11;x-unit" := by decide
  rw [listed, Option.map_some, ← resolution, unit property described index]

end Entity

end DirectoryQuery
