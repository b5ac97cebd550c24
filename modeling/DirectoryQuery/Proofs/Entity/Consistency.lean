/-
Module: DirectoryQuery.Proofs.Entity.Consistency
Purpose: Which descriptions of entities are consistent, said without the order in which the checks are
  made, and that these are just the ones that resolve.
Main exports:
  EntityDescriptor.IsConsistent, componentFault?_eq_none_iff, Entity.resolve_eq_ok_iff,
  Entity.resolve_eq_error_of_not_isConsistent
-/
import DirectoryQuery.Proofs.Association
import DirectoryQuery.Proofs.Entity.AttributeLanguage
import Mathlib.Data.List.Sort

namespace DirectoryQuery

open Text

/-- A description is consistent if it can stand for an entity: its entries are marked by object
classes, its properties can be told apart and stored, one of them holds the name of the entry, the
indices of the others count the components of that name, and there is a place to look below. -/
structure EntityDescriptor.IsConsistent (descriptor : EntityDescriptor) : Prop where
  someClass : descriptor.objectClasses ≠ []
  classes : ∀ name ∈ descriptor.objectClasses, trim name.toList ≠ []
  names : (descriptor.properties.map (·.name)).Nodup
  attributes : ∀ property ∈ descriptor.properties,
    property.effectiveAttribute.toList ∈ attributeNames
  identifier : ∃ property, descriptor.properties.filter (·.identifier) = [property] ∧
    property.transient = false ∧ property.valueType = .dn ∧ property.componentIndex = none
  stored : ∀ property ∈ descriptor.properties,
    property.transient = true → property.componentIndex = none
  components : ∃ count,
    (descriptor.properties.filterMap (·.componentIndex)).Perm (List.range count)
  base : ∀ text, descriptor.base = some text →
    trim text.toList = [] ∨ ∃ name, DistinguishedName.parse text = .ok name

namespace Entity

variable {descriptor : EntityDescriptor} {properties : List PropertyDescriptor}

/-! ### One check after the other -/

theorem duplicateFault?_eq_none_iff :
    ∀ {seen : List String}, duplicateFault? seen properties = none ↔
      (properties.map (·.name)).Nodup ∧ ∀ name ∈ properties.map (·.name), name ∉ seen := by
  induction properties with
  | nil => simp [duplicateFault?]
  | cons property rest ih =>
      intro seen
      rw [duplicateFault?, List.map_cons, List.nodup_cons, List.forall_mem_cons]
      split
      · next repeated => simp [repeated]
      · next fresh =>
          rw [ih]
          -- The name of the property is now among those seen, which keeps it out of the rest.
          constructor
          · rintro ⟨distinct, unseen⟩
            refine ⟨⟨fun later => unseen _ later List.mem_cons_self, distinct⟩, fresh, ?_⟩
            exact fun name later known => unseen name later (List.mem_cons_of_mem _ known)
          · rintro ⟨⟨single, distinct⟩, -, unseen⟩
            refine ⟨distinct, fun name later known => ?_⟩
            rcases List.mem_cons.1 known with rfl | known
            · exact single later
            · exact unseen name later known

theorem attributeNameFault?_eq_none_iff :
    attributeNameFault? properties = none ↔
      ∀ property ∈ properties, property.effectiveAttribute.toList ∈ attributeNames := by
  rw [attributeNameFault?, Option.map_eq_none_iff, List.find?_eq_none]
  simp [isAttributeName_iff_mem]

theorem identifierFault?_eq_none_iff :
    identifierFault? properties = none ↔
      ∃ property, properties.filter (·.identifier) = [property] ∧ property.transient = false ∧
        property.valueType = .dn ∧ property.componentIndex = none := by
  unfold identifierFault?
  split
  · next property single =>
      simp only [single, List.cons.injEq, and_true, exists_eq_left']
      split
      · next transient => simp [transient]
      · next stored =>
          split
          · next other => simp [other]
          · next name => cases property.componentIndex <;> simp_all
  · next several =>
      simp only [reduceCtorEq, false_iff]
      rintro ⟨property, single, -⟩
      exact several property single

theorem componentFaultAfter?_eq_none_iff :
    ∀ {seen : List (Nat × String)}, componentFaultAfter? seen properties = none ↔
      (∀ property ∈ properties, property.transient = true → property.componentIndex = none) ∧
        (properties.filterMap (·.componentIndex)).Nodup ∧
          ∀ index ∈ properties.filterMap (·.componentIndex), index ∉ seen.map (·.1) := by
  induction properties with
  | nil => simp [componentFaultAfter?]
  | cons property rest ih =>
      intro seen
      rw [List.forall_mem_cons, componentFaultAfter?]
      cases indexed : property.componentIndex with
      | none => simp only [ih, List.filterMap_cons_none indexed, implies_true, true_and]
      | some index =>
          rw [List.filterMap_cons_some indexed, List.nodup_cons, List.forall_mem_cons]
          dsimp only
          split
          · next transient => simp [transient]
          · next stored =>
              split
              · next first shared =>
                  have known := lookup_isSome_iff_mem_keys.1 (Option.isSome_of_eq_some shared)
                  simp [known]
              · next fresh =>
                  rw [ih]
                  have unknown := lookup_eq_none_iff_notMem_keys.1 fresh
                  constructor
                  · rintro ⟨later, distinct, unseen⟩
                    refine ⟨⟨fun transient => absurd transient stored, later⟩,
                      ⟨fun again => unseen _ again List.mem_cons_self, distinct⟩, unknown, ?_⟩
                    exact fun other found known => unseen other found (List.mem_cons_of_mem _ known)
                  · rintro ⟨⟨-, later⟩, ⟨single, distinct⟩, -, unseen⟩
                    refine ⟨later, distinct, fun other found known => ?_⟩
                    rcases List.mem_cons.1 known with rfl | known
                    · exact single found
                    · exact unseen other found known

/-- Numbers in increasing order count from zero just if they are the first ones in some order. -/
theorem mergeSort_eq_range_iff {indices : List Nat} :
    indices.mergeSort = List.range indices.mergeSort.length ↔
      ∃ count, indices.Perm (List.range count) := by
  constructor
  · intro counted
    exact ⟨_, (List.mergeSort_perm indices _).symm.trans (.of_eq counted)⟩
  · rintro ⟨count, same⟩
    have sorted : indices.mergeSort = List.range count := by
      apply List.Perm.eq_of_sortedLE List.sortedLE_mergeSort List.pairwise_le_range.sortedLE
      exact (List.mergeSort_perm indices _).trans same
    rw [sorted, List.length_range]

/-- The indices of name components are in order just if only stored properties have one and they
are the first numbers, each once. -/
theorem componentFault?_eq_none_iff :
    componentFault? properties = none ↔
      (∀ property ∈ properties, property.transient = true → property.componentIndex = none) ∧
        ∃ count, (properties.filterMap (·.componentIndex)).Perm (List.range count) := by
  have counts : (if componentIndices properties =
        List.range (componentIndices properties).length then none
      else some (MappingFault.componentGap (componentIndices properties))) = none ↔
      ∃ count, (properties.filterMap (·.componentIndex)).Perm (List.range count) := by
    rw [← mergeSort_eq_range_iff, componentIndices]
    simp
  rw [componentFault?, Option.or_eq_none_iff, componentFaultAfter?_eq_none_iff]
  dsimp only
  rw [counts]
  constructor
  · rintro ⟨⟨stored, -, -⟩, counted⟩
    exact ⟨stored, counted⟩
  · rintro ⟨stored, count, counted⟩
    exact ⟨⟨stored, counted.nodup_iff.2 List.nodup_range, by simp⟩, count, counted⟩

theorem trimmed_eq_empty_iff {text : String} : trimmed text = "" ↔ trim text.toList = [] := by
  rw [trimmed, String.ofList_eq_empty_iff]

/-- All checks but the one of the base. -/
theorem fault?_eq_none_iff :
    fault? descriptor = none ↔
      (descriptor.objectClasses ≠ [] ∧ ∀ name ∈ descriptor.objectClasses, trim name.toList ≠ []) ∧
        (descriptor.properties.map (·.name)).Nodup ∧
        (∀ property ∈ descriptor.properties,
          property.effectiveAttribute.toList ∈ attributeNames) ∧
        (∃ property, descriptor.properties.filter (·.identifier) = [property] ∧
          property.transient = false ∧ property.valueType = .dn ∧
          property.componentIndex = none) ∧
        (∀ property ∈ descriptor.properties,
          property.transient = true → property.componentIndex = none) ∧
        ∃ count, (descriptor.properties.filterMap (·.componentIndex)).Perm (List.range count) := by
  have classes : (trimmedClasses descriptor = [] ∨ "" ∈ trimmedClasses descriptor) ↔
      ¬(descriptor.objectClasses ≠ [] ∧
        ∀ name ∈ descriptor.objectClasses, trim name.toList ≠ []) := by
    simp only [trimmedClasses, List.map_eq_nil_iff, List.mem_map, trimmed_eq_empty_iff]
    grind
  unfold fault?
  dsimp only
  split
  · next missing =>
      have none := classes.1 missing
      simp [none]
  · next marked =>
      have all := not_not.1 (mt classes.2 marked)
      rw [and_iff_right all]
      simp only [Option.or_eq_none_iff, duplicateFault?_eq_none_iff,
        attributeNameFault?_eq_none_iff, identifierFault?_eq_none_iff,
        componentFault?_eq_none_iff, List.not_mem_nil, not_false_eq_true, implies_true, and_true,
        and_assoc]

/-! ### All checks together -/

theorem parse_of_blank {text : String} (blank : trim text.toList = []) :
    DistinguishedName.parse text = .ok .root := by
  rw [DistinguishedName.parse, if_pos blank]

theorem exists_parse_iff {base : Option String} :
    (∃ name, DistinguishedName.parse (base.getD "") = .ok name) ↔
      ∀ text, base = some text →
        trim text.toList = [] ∨ ∃ name, DistinguishedName.parse text = .ok name := by
  cases base with
  | none => simp [parse_of_blank (by decide : trim "".toList = [])]
  | some text =>
      simp only [Option.getD_some, Option.some.injEq, forall_eq']
      constructor
      · exact .inr
      · rintro (blank | read)
        · exact ⟨_, parse_of_blank blank⟩
        · exact read

theorem isConsistent_iff :
    descriptor.IsConsistent ↔
      fault? descriptor = none ∧
        ∃ name, DistinguishedName.parse (descriptor.base.getD "") = .ok name := by
  rw [fault?_eq_none_iff, exists_parse_iff]
  constructor
  · intro consistent
    exact ⟨⟨⟨consistent.someClass, consistent.classes⟩, consistent.names, consistent.attributes,
      consistent.identifier, consistent.stored, consistent.components⟩, consistent.base⟩
  · rintro ⟨⟨⟨someClass, classes⟩, names, attributes, identifier, stored, components⟩, base⟩
    exact ⟨someClass, classes, names, attributes, identifier, stored, components, base⟩

/-- Resolving a consistent description takes its parts over; nothing else resolves. -/
theorem resolve_eq_ok_iff {entity : Entity} :
    resolve descriptor = .ok entity ↔
      descriptor.IsConsistent ∧ ∃ base,
        DistinguishedName.parse (descriptor.base.getD "") = .ok base ∧
        entity =
          { name := descriptor.name
            objectClasses := trimmedClasses descriptor
            attributes := descriptor.properties.map PropertyDescriptor.resolve
            base := base } := by
  rw [isConsistent_iff, resolve]
  cases fault? descriptor with
  | some fault => simp
  | none =>
      cases read : DistinguishedName.parse (descriptor.base.getD "") with
      | error invalid => simp
      | ok base => simp [eq_comm]

theorem exists_resolve_iff :
    (∃ entity, resolve descriptor = .ok entity) ↔ descriptor.IsConsistent := by
  simp only [resolve_eq_ok_iff]
  constructor
  · rintro ⟨entity, consistent, -⟩
    exact consistent
  · intro consistent
    obtain ⟨-, base, read⟩ := isConsistent_iff.1 consistent
    exact ⟨_, consistent, base, read, rfl⟩

/-- What does not resolve is an inconsistent description of the named entity. -/
theorem resolve_eq_error_of_not_isConsistent (inconsistent : ¬descriptor.IsConsistent) :
    ∃ fault, resolve descriptor = .error ⟨descriptor.name, fault⟩ := by
  rw [isConsistent_iff] at inconsistent
  rw [resolve]
  cases unfaulted : fault? descriptor with
  | some fault => exact ⟨fault, rfl⟩
  | none =>
      cases read : DistinguishedName.parse (descriptor.base.getD "") with
      | error invalid => exact ⟨.invalidBase invalid, rfl⟩
      | ok base => exact absurd ⟨unfaulted, base, read⟩ inconsistent

end Entity

end DirectoryQuery
