/-
Module: DirectoryQuery.Proofs.Entity.Built
Purpose: What holds of every entity that comes out of a description.  Reading a description
  guarantees that no name is empty, and resolving it checks the rest; later proofs start from
  `Entity.Built` and never look into the checks again.
Main exports:
  EntityDescriptor.IsNamed, EntityDescriptor.isNamed_of_ofJson, Entity.Built,
  mem_nameComponents_iff, get?_eq_some_iff_of_nodup, Built.get?_eq_some_iff,
  Built.mem_queryableProperties_iff, Built.isAttributeName, Built.objectClasses_ne_nil
-/
import DirectoryQuery.Proofs.Entity.Consistency
import Mathlib.Data.List.Nodup

namespace DirectoryQuery

/-! ### Descriptions that have been read -/

/-- No name in a description is empty.  This is all that reading a description guarantees beyond
the types of its parts. -/
structure EntityDescriptor.IsNamed (descriptor : EntityDescriptor) : Prop where
  entity : descriptor.name ≠ ""
  properties : ∀ property ∈ descriptor.properties, property.name ≠ ""

namespace Checked

variable {α β : Type}

theorem and_eq_ok {first : Checked α} {second : Checked β} {a : α} {b : β}
    (joined : first.and second = .ok (a, b)) : first = .ok a ∧ second = .ok b := by
  cases first with
  | error found => cases second <;> simp [Checked.and] at joined
  | ok x =>
      cases second with
      | error found => simp [Checked.and] at joined
      | ok y => simpa [Checked.and] using joined

theorem map_eq_ok {outcome : Checked α} {change : α → β} {b : β}
    (mapped : outcome.map change = .ok b) : ∃ a, outcome = .ok a ∧ change a = b := by
  cases outcome with
  | error found => cases mapped
  | ok a =>
      injection mapped with same
      exact ⟨a, rfl, same⟩

theorem under_eq_ok {step : PathStep} {outcome : Checked α} {a : α}
    (named : outcome.under step = .ok a) : outcome = .ok a := by
  cases outcome with
  | error found => cases named
  | ok x => exact named

end Checked

theorem checkName_ne_empty {document : Json} {name : String}
    (checked : checkName document = .ok name) : name ≠ "" := by
  unfold checkName at checked
  split at checked
  · split at checked
    · cases checked
    · next nonempty =>
        injection checked with same
        exact same ▸ nonempty
  · cases checked

theorem required_eq_ok {α : Type} {members : List (String × Json)} {key : String}
    {check : Json → Checked α} {a : α} (found : required members key check = .ok a) :
    ∃ document, check document = .ok a := by
  unfold required at found
  have inner := Checked.under_eq_ok found
  split at inner
  · next document _ => exact ⟨document, inner⟩
  · cases inner

theorem forall_of_checkItems {α : Type} {check : Json → Checked α} {holds : α → Prop}
    (sound : ∀ {document a}, check document = .ok a → holds a) :
    ∀ {documents : List Json} {position : Nat} {items : List α},
      checkItems check position documents = .ok items → ∀ item ∈ items, holds item := by
  intro documents
  induction documents with
  | nil =>
      intro position items checked item found
      cases checked
      cases found
  | cons document rest ih =>
      intro position items checked item found
      obtain ⟨⟨first, others⟩, joined, rfl⟩ := Checked.map_eq_ok checked
      obtain ⟨head, tail⟩ := Checked.and_eq_ok joined
      rcases List.mem_cons.1 found with rfl | later
      · exact sound (Checked.under_eq_ok head)
      · exact ih tail item later

theorem forall_of_checkList {α : Type} {check : Json → Checked α} {holds : α → Prop}
    (sound : ∀ {document a}, check document = .ok a → holds a) {document : Json} {items : List α}
    (checked : checkList check document = .ok items) : ∀ item ∈ items, holds item := by
  cases document with
  | list documents => exact forall_of_checkItems sound checked
  | _ => cases checked

theorem PropertyDescriptor.name_ne_empty_of_ofJson {document : Json} {property : PropertyDescriptor}
    (checked : PropertyDescriptor.ofJson document = .ok property) : property.name ≠ "" := by
  cases document with
  | object members =>
      obtain ⟨parts, joined, rfl⟩ := Checked.map_eq_ok checked
      obtain ⟨joined, -⟩ := Checked.and_eq_ok joined
      obtain ⟨joined, -⟩ := Checked.and_eq_ok joined
      obtain ⟨joined, -⟩ := Checked.and_eq_ok joined
      obtain ⟨joined, -⟩ := Checked.and_eq_ok joined
      obtain ⟨joined, -⟩ := Checked.and_eq_ok joined
      obtain ⟨joined, -⟩ := Checked.and_eq_ok joined
      obtain ⟨named, -⟩ := Checked.and_eq_ok joined
      obtain ⟨_, named⟩ := required_eq_ok named
      exact checkName_ne_empty named
  | _ => cases checked

/-- A description that was read has no empty name. -/
theorem EntityDescriptor.isNamed_of_ofJson {document : Json} {descriptor : EntityDescriptor}
    (checked : EntityDescriptor.ofJson document = .ok descriptor) : descriptor.IsNamed := by
  cases document with
  | object members =>
      obtain ⟨parts, joined, rfl⟩ := Checked.map_eq_ok checked
      obtain ⟨joined, -⟩ := Checked.and_eq_ok joined
      obtain ⟨joined, listed⟩ := Checked.and_eq_ok joined
      obtain ⟨joined, -⟩ := Checked.and_eq_ok joined
      obtain ⟨named, -⟩ := Checked.and_eq_ok joined
      obtain ⟨_, named⟩ := required_eq_ok named
      obtain ⟨_, listed⟩ := required_eq_ok listed
      exact ⟨checkName_ne_empty named,
        forall_of_checkList PropertyDescriptor.name_ne_empty_of_ofJson listed⟩
  | _ => cases checked

/-! ### Entities that have been resolved -/

namespace Entity

/-- An entity that a description without empty names stands for. -/
def Built (entity : Entity) : Prop :=
  ∃ descriptor : EntityDescriptor, descriptor.IsNamed ∧ Entity.resolve descriptor = .ok entity

/-- What resolving a description has checked, as far as queries rely on it. -/
theorem resolve_eq_ok {descriptor : EntityDescriptor} {entity : Entity}
    (resolved : Entity.resolve descriptor = .ok entity) :
    trimmedClasses descriptor ≠ [] ∧ (descriptor.properties.map (·.name)).Nodup ∧
      (∀ property ∈ descriptor.properties, isAttributeName property.effectiveAttribute = true) ∧
      entity.objectClasses = trimmedClasses descriptor ∧
      entity.attributes = descriptor.properties.map PropertyDescriptor.resolve := by
  obtain ⟨consistent, base, -, rfl⟩ := resolve_eq_ok_iff.1 resolved
  refine ⟨?_, consistent.names, ?_, rfl, rfl⟩
  · rw [trimmedClasses, Ne, List.map_eq_nil_iff]
    exact consistent.someClass
  · exact fun property found => isAttributeName_iff_mem.2 (consistent.attributes property found)

namespace Built

variable {entity : Entity}

theorem objectClasses_ne_nil (built : entity.Built) : entity.objectClasses ≠ [] := by
  obtain ⟨descriptor, -, resolved⟩ := built
  obtain ⟨classes, -, -, same, -⟩ := resolve_eq_ok resolved
  exact same ▸ classes

theorem nodup_propertyNames (built : entity.Built) : entity.propertyNames.Nodup := by
  obtain ⟨descriptor, -, resolved⟩ := built
  obtain ⟨-, distinct, -, -, same⟩ := resolve_eq_ok resolved
  rw [propertyNames, same, List.map_map]
  exact distinct

theorem property_ne_empty (built : entity.Built) {found : Attribute}
    (known : found ∈ entity.attributes) : found.property ≠ "" := by
  obtain ⟨descriptor, named, resolved⟩ := built
  obtain ⟨-, -, -, -, same⟩ := resolve_eq_ok resolved
  rw [same] at known
  obtain ⟨property, listed, rfl⟩ := List.mem_map.1 known
  exact named.properties property listed

/-- Attributes have attribute names. -/
theorem isAttributeName (built : entity.Built) {found : Attribute}
    (known : found ∈ entity.attributes) :
    DirectoryQuery.isAttributeName found.attributeName = true := by
  obtain ⟨descriptor, -, resolved⟩ := built
  obtain ⟨-, -, valid, -, same⟩ := resolve_eq_ok resolved
  rw [same] at known
  obtain ⟨property, listed, rfl⟩ := List.mem_map.1 known
  exact valid property listed

end Built

/-! ### Looking up properties -/

variable {entity : Entity}

theorem mem_of_get?_eq_some {property : String} {found : Attribute}
    (known : entity.get? property = some found) :
    found ∈ entity.attributes ∧ found.property = property := by
  refine ⟨List.mem_of_find?_eq_some known, ?_⟩
  have test := List.find?_some known
  exact eq_of_beq test

theorem mem_nameComponents_iff {component : Attribute} :
    component ∈ entity.nameComponents ↔
      component ∈ entity.attributes ∧ component.componentIndex.isSome = true := by
  rw [nameComponents, (List.mergeSort_perm _ _).mem_iff, List.mem_filter]

/-- Under distinct names the attribute of a property is the only one with its name. -/
theorem get?_eq_some_iff_of_nodup (distinct : entity.propertyNames.Nodup) {property : String}
    {found : Attribute} :
    entity.get? property = some found ↔ found ∈ entity.attributes ∧ found.property = property := by
  refine ⟨mem_of_get?_eq_some, ?_⟩
  rintro ⟨listed, rfl⟩
  cases looked : entity.get? found.property with
  | none =>
      have missing := List.find?_eq_none.1 looked found listed
      simp at missing
  | some other =>
      obtain ⟨listed', same⟩ := mem_of_get?_eq_some looked
      rw [List.inj_on_of_nodup_map distinct listed' listed same]

theorem Built.get?_eq_some_iff (built : entity.Built) {property : String} {found : Attribute} :
    entity.get? property = some found ↔ found ∈ entity.attributes ∧ found.property = property :=
  get?_eq_some_iff_of_nodup built.nodup_propertyNames

/-- The properties that may be queried are those whose attribute may stand in a filter. -/
theorem Built.mem_queryableProperties_iff (built : entity.Built) {property : String} :
    property ∈ entity.queryableProperties ↔
      ∃ found, entity.get? property = some found ∧ found.isQueryable = true := by
  simp only [queryableProperties, List.mem_map, List.mem_filter, built.get?_eq_some_iff]
  constructor
  · rintro ⟨found, ⟨listed, queryable⟩, same⟩
    exact ⟨found, ⟨listed, same⟩, queryable⟩
  · rintro ⟨found, ⟨listed, same⟩, queryable⟩
    exact ⟨found, ⟨listed, queryable⟩, same⟩

end Entity

/-! ### An example -/

/-- The description of a person: its name hangs below a base, one property goes by the name of
another attribute, and one is never stored. -/
def EntityDescriptor.person : EntityDescriptor where
  name := "Person"
  objectClasses := ["person", " top "]
  base := some "ou=people"
  properties := [
    { name := "dn", identifier := true, valueType := .dn },
    { name := "lastname", attributeName := some "sn" },
    { name := "uid", componentIndex := some 0 },
    { name := "phone", attributeName := some "telephoneNumber", multiValued := true },
    { name := "password", transient := true }]

/-- The entity of persons. -/
def Entity.person : Entity where
  name := "Person"
  objectClasses := ["person", "top"]
  attributes := EntityDescriptor.person.properties.map PropertyDescriptor.resolve
  base := ⟨["ou=people"]⟩

theorem Entity.built_person : Entity.person.Built :=
  ⟨EntityDescriptor.person, ⟨by decide, by decide⟩, by decide +kernel⟩

end DirectoryQuery
