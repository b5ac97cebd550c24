/-
Module: DirectoryQuery.Proofs.Finder.DeclarationOrder
Purpose: The order in which the properties of an entity are declared decides between properties that
  are spelled alike in criteria, and nothing else.  Where no two are spelled alike, a finder name
  means the same whatever that order is.
Main exports:
  Entity.TriedBefore.transfer, Criteria.Before.transfer, Criteria.IsFirstReading.transfer,
  Finder.parse_of_perm
-/
import DirectoryQuery.Proofs.Finder.Tree

namespace DirectoryQuery

/-! ### From one entity to another

`SpelledApart` is all that the order of readings needs: the order of declaration is asked only about
two properties that are spelled alike, and then they are one property. -/

/-- Segments whose properties are the same as soon as they are spelled alike. -/
def Segment.SpelledApart (s t : Segment) : Prop :=
  capitalized s.property = capitalized t.property → s.property = t.property

variable {entity other : Entity}

theorem Entity.TriedBefore.transfer {p q : String} (before : entity.TriedBefore p q)
    (apart : capitalized p = capitalized q → p = q) : other.TriedBefore p q := by
  cases before with
  | longer length => exact .longer length
  | smaller length order => exact .smaller length order
  | earlier spelling order =>
      cases apart spelling
      exact False.elim (Nat.lt_irrefl _ order)

theorem Segment.Before.transfer {s t : Segment} (before : Before entity s t)
    (apart : s.SpelledApart t) : Before other s t := by
  cases before with
  | property order => exact .property (order.transfer apart)
  | keyword same longer => exact .keyword same longer

namespace Criteria

theorem Before.transfer {one later : Criteria} (before : one.Before entity later)
    (apart : ∀ s ∈ one.segments, ∀ t ∈ later.segments, s.SpelledApart t) :
    one.Before other later := by
  induction before with
  | segment order =>
      apply Before.segment
      exact order.transfer (apart _ List.mem_cons_self _ List.mem_cons_self)
  | connective => exact .connective
  | later _ ih =>
      apply Before.later
      apply ih
      intro s among t among'
      exact apart s (List.mem_cons_of_mem _ among) t (List.mem_cons_of_mem _ among')

theorem IsReading.transfer {criteria : Criteria} {text : List Char}
    (reading : criteria.IsReading entity text)
    (kept : entity.queryableProperties ⊆ other.queryableProperties) :
    criteria.IsReading other text := by
  refine ⟨reading.spelled, ?_⟩
  intro segment listed
  have admitted := reading.admitted segment listed
  exact ⟨kept admitted.property, admitted.keyword⟩

/-- Entities with the same properties to query agree on which reading of a text comes first, if no two
of these properties are spelled alike. -/
theorem IsFirstReading.transfer {criteria : Criteria} {text : List Char}
    (first : criteria.IsFirstReading entity text)
    (same : ∀ property, property ∈ entity.queryableProperties ↔
      property ∈ other.queryableProperties)
    (apart : ∀ p ∈ entity.queryableProperties, ∀ q ∈ entity.queryableProperties,
      capitalized p = capitalized q → p = q) :
    criteria.IsFirstReading other text := by
  refine ⟨first.reading.transfer fun property => (same property).1, ?_⟩
  intro later reading different
  have reading' : later.IsReading entity text :=
    reading.transfer fun property => (same property).2
  apply (first.first later reading' different).transfer
  intro s among t among'
  exact apart _ (first.reading.admitted s among).property _ (reading'.admitted t among').property

end Criteria

/-! ### Permuted declarations -/

namespace Entity

theorem mem_queryableProperties_iff_of_perm (permuted : entity.attributes.Perm other.attributes)
    (property : String) :
    property ∈ entity.queryableProperties ↔ property ∈ other.queryableProperties :=
  ((permuted.filter _).map _).mem_iff

/-- Entities whose declarations are permuted read the same criteria in the same way. -/
theorem Built.readCriteria_iff_of_perm (built : entity.Built) (built' : other.Built)
    (permuted : entity.attributes.Perm other.attributes)
    (apart : (entity.propertyNames.map capitalized).Nodup) {text : List Char}
    {criteria : Criteria} :
    entity.readCriteria text = .read criteria ↔ other.readCriteria text = .read criteria := by
  have same := mem_queryableProperties_iff_of_perm permuted
  have apart' : ∀ p ∈ entity.queryableProperties, ∀ q ∈ entity.queryableProperties,
      capitalized p = capitalized q → p = q := by
    intro p listed q listed'
    exact List.inj_on_of_nodup_map apart (queryableProperties_subset_propertyNames listed)
      (queryableProperties_subset_propertyNames listed')
  rw [built.readCriteria_eq_read_iff, built'.readCriteria_eq_read_iff]
  constructor
  · intro first
    exact first.transfer same apart'
  · intro first
    apply first.transfer fun property => (same property).symm
    intro p listed q listed'
    exact apart' p ((same p).2 listed) q ((same q).2 listed')

end Entity

/-- Entities whose declarations are permuted accept the same finder names, and read each of them as
the same finder, if no two of their properties are spelled alike. -/
theorem Finder.parse_of_perm (built : entity.Built) (built' : other.Built)
    (permuted : entity.attributes.Perm other.attributes)
    (apart : (entity.propertyNames.map capitalized).Nodup) (descriptor : String) :
    ((∃ finder, Finder.parse entity descriptor = .ok finder) ↔
        ∃ finder, Finder.parse other descriptor = .ok finder) ∧
      ∀ finder finder', Finder.parse entity descriptor = .ok finder →
        Finder.parse other descriptor = .ok finder' →
          finder.predicate = finder'.predicate ∧ finder.parameters = finder'.parameters := by
  have agree (finder : Finder) :
      Finder.parse entity descriptor = .ok finder ↔
        Finder.parse other descriptor = .ok finder := by
    simp only [Finder.parse_eq_ok_iff, built.readCriteria_iff_of_perm built' permuted apart]
  refine ⟨exists_congr agree, ?_⟩
  intro finder finder' parsed parsed'
  have same := ((agree finder).1 parsed).symm.trans parsed'
  cases same
  exact ⟨rfl, rfl⟩

/-- The description of an item with its properties in the opposite order. -/
def EntityDescriptor.itemReversed : EntityDescriptor :=
  { Entity.itemDescriptor with properties := Entity.itemDescriptor.properties.reverse }

/-- The entity of items with its properties in the opposite order. -/
def Entity.itemReversed : Entity :=
  { Entity.item with attributes := Entity.item.attributes.reverse }

theorem Entity.built_itemReversed : Entity.itemReversed.Built :=
  ⟨.itemReversed, ⟨by decide, by decide⟩, by decide +kernel⟩

/-- A name in which the longer of two properties has to be given up reads the same in both orders. -/
theorem Finder.parse_of_perm_item :
    Entity.item.Built ∧ Entity.itemReversed.Built ∧
      Entity.item.attributes.Perm Entity.itemReversed.attributes ∧
      (Entity.item.propertyNames.map capitalized).Nodup ∧
      ∃ finder, Finder.parse .itemReversed "findByCodeNotNull" = .ok finder := by
  have permuted : Entity.item.attributes.Perm Entity.itemReversed.attributes :=
    (List.reverse_perm _).symm
  have apart : (Entity.item.propertyNames.map capitalized).Nodup := by decide +kernel
  have same := Finder.parse_of_perm Entity.built_item Entity.built_itemReversed permuted apart
    "findByCodeNotNull"
  exact ⟨Entity.built_item, Entity.built_itemReversed, permuted, apart,
    same.1.1 Entity.exists_parse_codeNotNull⟩

end DirectoryQuery
