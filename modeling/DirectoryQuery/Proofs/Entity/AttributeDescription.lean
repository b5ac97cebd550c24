/-
Module: DirectoryQuery.Proofs.Entity.AttributeDescription
Purpose: Attribute names against the attribute descriptions of RFC 4512.  Whether a property may be
  stored under a name depends on the name alone.  Every attribute description is such a name; the
  others are object identifiers with a digit of another script, or with a zero before other digits.
Main exports:
  attributeDescriptions, IsStray, mem_attributeDescriptions_iff,
  EntityDescriptor.IsConsistentBut, Entity.resolve_attributeName_exact
-/
import DirectoryQuery.Proofs.Entity.Built
import DirectoryQuery.Proofs.Name.NormalForm

namespace DirectoryQuery

open Text Computability

/-! ### The language of attribute descriptions -/

/-- The decimal numbers: a digit, or several of which the first is not zero. -/
def numbers : Language Char :=
  oneOf Char.isDigit + oneOf (fun c => c.isDigit && c != '0') * oneOrMore (oneOf Char.isDigit)

/-- The numeric object identifiers: two or more numbers with points between them. -/
def numericIdentifiers : Language Char := numbers * oneOrMore (oneOf (· == '.') * numbers)

/-- The attribute descriptions of RFC 4512: a short name or a numeric object identifier, and options
behind semicolons. -/
def attributeDescriptions : Language Char :=
  (shortNames + numericIdentifiers) * (oneOf (· == ';') * oneOrMore (oneOf isKeywordChar))∗

/-- A number that is not written as numbers are: with a digit of another script, or with a zero
before other digits. -/
def IsStray (number : List Char) : Prop :=
  (∃ digit ∈ number, isDecimalDigit digit = true ∧ digit.isDigit = false) ∨
    (number.head? = some '0' ∧ number ≠ ['0'])

instance : DecidablePred IsStray := fun number =>
  -- The digits of the number are tried, not all characters that there are.
  decidable_of_iff
    (number.any (fun digit => isDecimalDigit digit && !digit.isDigit) = true ∨
      (number.head? = some '0' ∧ number ≠ ['0']))
    (by simp [IsStray])

/-- The parts between the points of an attribute name, its options apart. -/
def pointedParts (text : List Char) : List (List Char) :=
  let (first, others) := split '.' (split ';' text).1
  first :: others

theorem isDecimalDigit_of_isDigit {c : Char} (digit : c.isDigit = true) :
    isDecimalDigit c = true := by
  have bounds : 48 ≤ c.toNat ∧ c.toNat < 48 + 10 := by
    simp only [Char.isDigit, Bool.and_eq_true, decide_eq_true_eq, UInt32.le_iff_toNat_le] at digit
    change 48 ≤ c.toNat ∧ c.toNat ≤ 57 at digit
    omega
  have listed : 48 ∈ Word.decimalZeros := by decide
  rw [isDecimalDigit, decimalDigit?, List.findSome?_isSome_iff]
  exact ⟨48, listed, by rw [if_pos bounds]; rfl⟩

/-- The only decimal digits in keywords are those of ASCII. -/
theorem isDigit_of_isKeywordChar {c : Char} (kept : isKeywordChar c = true)
    (digit : isDecimalDigit c = true) : c.isDigit = true := by
  have ascii : ∀ n < 128, isKeywordChar (Char.ofNat n) = true →
      isDecimalDigit (Char.ofNat n) = true → (Char.ofNat n).isDigit = true := by decide +kernel
  -- In names the same characters make up attributes.
  have typed : DistinguishedName.isTypeChar c = true := kept
  have small : c.toNat < 128 :=
    Nat.lt_of_le_of_lt (DistinguishedName.range_of_isTypeChar typed).2 (by decide)
  have found := ascii c.toNat small
  rw [Char.ofNat_toNat] at found
  exact found kept digit

/-! ### What sets attribute descriptions apart -/

theorem mem_numbers_iff {number : List Char} :
    number ∈ numbers ↔ number ∈ oneOrMore (oneOf isDecimalDigit) ∧ ¬IsStray number := by
  rw [numbers, Language.mem_add, mem_oneOf_mul, mem_oneOrMore_oneOf]
  simp only [mem_oneOrMore_oneOf]
  constructor
  · rintro (⟨digit, found, rfl⟩ | ⟨first, rest, leading, ⟨-, each⟩, rfl⟩)
    · refine ⟨⟨by simp, by simp [isDecimalDigit_of_isDigit found]⟩, ?_⟩
      rintro (⟨other, listed, -, foreign⟩ | ⟨zero, several⟩)
      · rw [List.mem_singleton.1 listed, found] at foreign
        cases foreign
      · exact several (congrArg ([·]) (Option.some.inj zero))
    · rw [Bool.and_eq_true, bne_iff_ne] at leading
      have digits : ∀ digit ∈ first :: rest, digit.isDigit = true :=
        List.forall_mem_cons.2 ⟨leading.1, each⟩
      refine ⟨⟨by simp, fun digit listed => isDecimalDigit_of_isDigit (digits digit listed)⟩, ?_⟩
      rintro (⟨other, listed, -, foreign⟩ | ⟨zero, -⟩)
      · rw [digits other listed] at foreign
        cases foreign
      · exact leading.2 (Option.some.inj zero)
  · rintro ⟨⟨nonempty, each⟩, usual⟩
    rw [IsStray, not_or] at usual
    obtain ⟨domestic, unpadded⟩ := usual
    have digits : ∀ digit ∈ number, digit.isDigit = true := by
      intro digit listed
      by_contra foreign
      exact domestic ⟨digit, listed, each digit listed, by simpa using foreign⟩
    match number with
    | [digit] => exact .inl ⟨digit, digits digit (by simp), rfl⟩
    | first :: second :: rest =>
        obtain ⟨leading, later⟩ := List.forall_mem_cons.1 digits
        refine .inr ⟨first, second :: rest, ?_, ⟨by simp, later⟩, rfl⟩
        rw [Bool.and_eq_true, bne_iff_ne]
        refine ⟨leading, ?_⟩
        rintro rfl
        exact unpadded ⟨rfl, by simp⟩

theorem point_notMem_of_mem_numbers {number : List Char} (found : number ∈ numbers) :
    '.' ∉ number :=
  separator_notMem_of_mem (by decide) (mem_numbers_iff.1 found).1

/-- An object identifier is numeric if none of its numbers is stray. -/
theorem mem_numericIdentifiers_iff {type : List Char} :
    type ∈ numericIdentifiers ↔ type ∈ objectIdentifiers ∧
      ∀ part ∈ (split '.' type).1 :: (split '.' type).2, ¬IsStray part := by
  rw [mem_objectIdentifiers_iff, numericIdentifiers,
    mem_mul_oneOrMore_preceded_iff fun _ => point_notMem_of_mem_numbers, List.forall_mem_cons]
  simp only [mem_numbers_iff]
  constructor
  · rintro ⟨⟨first, usual⟩, several, others⟩
    exact ⟨⟨first, several, fun part listed => (others part listed).1⟩, usual,
      fun part listed => (others part listed).2⟩
  · rintro ⟨⟨first, several, others⟩, usual, unstrayed⟩
    exact ⟨⟨first, usual⟩, several, fun part listed =>
      ⟨others part listed, unstrayed part listed⟩⟩

/-- A short name has no number that could be stray. -/
theorem not_isStray_of_mem_shortNames {type : List Char} (short : type ∈ shortNames) :
    ∀ part ∈ (split '.' type).1 :: (split '.' type).2, ¬IsStray part := by
  have kept := (mem_shortName (isShortName_iff_mem.2 short)).2
  have whole : split '.' type = (type, []) := by
    apply split_of_notMem
    intro listed
    exact absurd (kept _ listed) (by decide)
  rw [whole]
  intro part listed
  rw [List.mem_singleton.1 listed]
  rintro (⟨digit, listed, decimal, foreign⟩ | ⟨zero, -⟩)
  · rw [isDigit_of_isKeywordChar (kept digit listed) decimal] at foreign
    cases foreign
  · obtain ⟨first, rest, letter, -, rfl⟩ := mem_oneOf_mul.1 short
    rw [Option.some.inj zero] at letter
    cases letter

/-- The attribute descriptions are the attribute names without a stray number. -/
theorem mem_attributeDescriptions_iff {text : List Char} :
    text ∈ attributeDescriptions ↔
      text ∈ attributeNames ∧ ∀ part ∈ pointedParts text, ¬IsStray part := by
  have type : (split ';' text).1 ∈ shortNames + numericIdentifiers ↔
      (split ';' text).1 ∈ shortNames + objectIdentifiers ∧
        ∀ part ∈ pointedParts text, ¬IsStray part := by
    rw [Language.mem_add, Language.mem_add, mem_numericIdentifiers_iff, or_and_right]
    exact or_congr_left (and_iff_left_of_imp not_isStray_of_mem_shortNames).symm
  have apart : ∀ word ∈ shortNames + numericIdentifiers, ';' ∉ word := by
    intro word found
    apply semicolon_notMem_of_mem
    rw [Language.mem_add] at *
    exact found.imp_right fun numeric => (mem_numericIdentifiers_iff.1 numeric).1
  rw [attributeDescriptions, mem_mul_kstar_preceded_iff apart fun _ =>
    separator_notMem_of_mem (by decide), mem_attributeNames_iff, type, and_right_comm]

/-! ### One property of a description -/

/-- The description of a property, with another attribute name if it is the given one. -/
def PropertyDescriptor.renamed (property : PropertyDescriptor) (name : String)
    (other : PropertyDescriptor) : PropertyDescriptor :=
  if other = property then { other with attributeName := some name } else other

/-- What does not look at attribute names takes a renamed property for the property itself. -/
theorem PropertyDescriptor.apply_renamed {α : Type} (view : PropertyDescriptor → α)
    (blind : ∀ other attributeName, view { other with attributeName } = view other)
    (property : PropertyDescriptor) (name : String) (other : PropertyDescriptor) :
    view (property.renamed name other) = view other := by
  unfold renamed
  split
  · exact blind other _
  · rfl

namespace EntityDescriptor

variable {descriptor : EntityDescriptor} {property : PropertyDescriptor}

/-- The description with another attribute name for one of its properties. -/
def storing (descriptor : EntityDescriptor) (property : PropertyDescriptor) (name : String) :
    EntityDescriptor :=
  { descriptor with properties := descriptor.properties.map (property.renamed name) }

/-- A description in which nothing but the attribute name of a property may be out of order: with
some name in its place the description is consistent. -/
def IsConsistentBut (descriptor : EntityDescriptor) (property : PropertyDescriptor) : Prop :=
  ∃ name, (descriptor.storing property name).IsConsistent

namespace IsConsistentBut

theorem names (sound : descriptor.IsConsistentBut property) :
    (descriptor.properties.map (·.name)).Nodup := by
  obtain ⟨name, sound⟩ := sound
  have names := sound.names
  rw [storing, List.map_map] at names
  rwa [← funext (property.apply_renamed (·.name) (fun _ _ => rfl) name)]

theorem attributes_of_ne (sound : descriptor.IsConsistentBut property)
    {other : PropertyDescriptor} (known : other ∈ descriptor.properties)
    (different : other ≠ property) : other.effectiveAttribute.toList ∈ attributeNames := by
  obtain ⟨name, sound⟩ := sound
  have found := sound.attributes _ (List.mem_map_of_mem known)
  rwa [PropertyDescriptor.renamed, if_neg different] at found

/-- All that is left to check is the attribute name of the property. -/
theorem isConsistent_iff (sound : descriptor.IsConsistentBut property)
    (listed : property ∈ descriptor.properties) :
    descriptor.IsConsistent ↔ property.effectiveAttribute.toList ∈ attributeNames := by
  refine ⟨fun consistent => consistent.attributes property listed, fun valid => ?_⟩
  have names := sound.names
  have others := @sound.attributes_of_ne
  obtain ⟨name, sound⟩ := sound
  have same {α : Type} (view : PropertyDescriptor → α)
      (blind : ∀ other attributeName, view { other with attributeName } = view other) :=
    property.apply_renamed view blind name
  refine ⟨sound.someClass, sound.classes, names, ?_, ?_, ?_, ?_, sound.base⟩
  · intro other known
    by_cases given : other = property
    · exact given ▸ valid
    · exact others known given
  · obtain ⟨found, single, transient, type, index⟩ := sound.identifier
    rw [storing, List.filter_map,
      show (·.identifier) ∘ property.renamed name = (·.identifier) from
        funext (same (·.identifier) fun _ _ => rfl), List.map_eq_singleton_iff] at single
    obtain ⟨identifier, single, rfl⟩ := single
    refine ⟨identifier, single, ?_, ?_, ?_⟩
    · rwa [same (·.transient) fun _ _ => rfl] at transient
    · rwa [same (·.valueType) fun _ _ => rfl] at type
    · rwa [same (·.componentIndex) fun _ _ => rfl] at index
  · intro other known transient
    have found := sound.stored _ (List.mem_map_of_mem known)
    rw [same (·.transient) fun _ _ => rfl, same (·.componentIndex) fun _ _ => rfl] at found
    exact found transient
  · obtain ⟨count, counted⟩ := sound.components
    rw [storing, List.filterMap_map,
      show (·.componentIndex) ∘ property.renamed name = (·.componentIndex) from
        funext (same (·.componentIndex) fun _ _ => rfl)] at counted
    exact ⟨count, counted⟩

/-- A name that is refused is the first fault that is found. -/
theorem fault?_eq (sound : descriptor.IsConsistentBut property)
    (listed : property ∈ descriptor.properties)
    (invalid : property.effectiveAttribute.toList ∉ attributeNames) :
    Entity.fault? descriptor =
      some (.invalidAttributeName property.name property.effectiveAttribute) := by
  have marked : ¬(Entity.trimmedClasses descriptor = [] ∨
      "" ∈ Entity.trimmedClasses descriptor) := by
    obtain ⟨name, sound⟩ := sound
    have none : Entity.fault? (descriptor.storing property name) = none :=
      (Entity.isConsistent_iff.1 sound).1
    intro missing
    rw [Entity.fault?] at none
    cases none.symm.trans (if_pos missing)
  have distinct : Entity.duplicateFault? [] descriptor.properties = none :=
    Entity.duplicateFault?_eq_none_iff.2 ⟨sound.names, by simp⟩
  have first : descriptor.properties.find? (!isAttributeName ·.effectiveAttribute) =
      some property := by
    have refused {other : PropertyDescriptor} :
        (!isAttributeName other.effectiveAttribute) = true ↔
          other.effectiveAttribute.toList ∉ attributeNames := by
      rw [Bool.not_eq_true', ← Bool.not_eq_true, isAttributeName_iff_mem]
    cases found : descriptor.properties.find? (!isAttributeName ·.effectiveAttribute) with
    | none => exact absurd (refused.2 invalid) (List.find?_eq_none.1 found property listed)
    | some other =>
        have passed := List.find?_some found
        have known := List.mem_of_find?_eq_some found
        by_contra different
        exact refused.1 passed (sound.attributes_of_ne known fun same => different (congrArg some same))
  rw [Entity.fault?, if_neg marked, distinct, Entity.attributeNameFault?, first]
  rfl

end IsConsistentBut

end EntityDescriptor

/-- In a description where nothing else is out of order, the attribute name decides.  The entity comes
about, and stores the property under this name, just if the name is a word of the language of
attribute names; otherwise the name is what is complained about.  The attribute descriptions are
the names without a stray number: those that are accepted beyond them are written with a digit of
another script or with a zero before other digits. -/
theorem Entity.resolve_attributeName_exact {descriptor : EntityDescriptor}
    {property : PropertyDescriptor} (listed : property ∈ descriptor.properties)
    (sound : descriptor.IsConsistentBut property) :
    ((∃ entity, Entity.resolve descriptor = .ok entity ∧
        (entity.get? property.name).map (·.attributeName) = some property.effectiveAttribute) ↔
      property.effectiveAttribute.toList ∈ attributeNames) ∧
    (property.effectiveAttribute.toList ∉ attributeNames →
      Entity.resolve descriptor = .error ⟨descriptor.name,
        .invalidAttributeName property.name property.effectiveAttribute⟩) ∧
    (property.effectiveAttribute.toList ∈ attributeDescriptions ↔
      property.effectiveAttribute.toList ∈ attributeNames ∧
        ∀ part ∈ pointedParts property.effectiveAttribute.toList, ¬IsStray part) := by
  refine ⟨⟨?_, ?_⟩, ?_, mem_attributeDescriptions_iff⟩
  · rintro ⟨entity, resolved, -⟩
    exact (sound.isConsistent_iff listed).1 (Entity.exists_resolve_iff.1 ⟨entity, resolved⟩)
  · intro valid
    obtain ⟨entity, resolved⟩ :=
      Entity.exists_resolve_iff.2 ((sound.isConsistent_iff listed).2 valid)
    obtain ⟨-, distinct, -, -, taken⟩ := Entity.resolve_eq_ok resolved
    refine ⟨entity, resolved, ?_⟩
    have unique : entity.propertyNames.Nodup := by
      rw [Entity.propertyNames, taken, List.map_map]
      exact distinct
    have known : entity.get? property.name = some property.resolve := by
      rw [Entity.get?_eq_some_iff_of_nodup unique, taken]
      exact ⟨List.mem_map_of_mem listed, rfl⟩
    rw [known]
    rfl
  · intro invalid
    rw [Entity.resolve, sound.fault?_eq listed invalid]

/-! ### An example -/

/-- The description of a label that is stored under some attribute name. -/
def PropertyDescriptor.label (attributeName : String) : PropertyDescriptor where
  name := "label"
  attributeName := some attributeName

/-- The description of an entry with a label. -/
def EntityDescriptor.labelled (attributeName : String) : EntityDescriptor where
  name := "Labelled"
  objectClasses := ["top"]
  properties := [{ name := "dn", identifier := true, valueType := .dn }, .label attributeName]

theorem EntityDescriptor.isConsistentBut_labelled (attributeName : String) :
    (labelled attributeName).IsConsistentBut (.label attributeName) := by
  have same : (labelled attributeName).storing (.label attributeName) "cn" = labelled "cn" := by
    simp [storing, labelled, PropertyDescriptor.renamed, PropertyDescriptor.label]
  have resolved : Entity.fault? (labelled "cn") = none := by decide +kernel
  exact ⟨"cn", same ▸ Entity.isConsistent_iff.2 ⟨resolved, .root, by decide +kernel⟩⟩

theorem Entity.resolve_attributeName_exact_labelled :
    (∃ entity, Entity.resolve (.labelled "2.5.4.20;lang-de") = .ok entity) ∧
      "2.5.4.20;lang-de".toList ∈ attributeDescriptions ∧
      PropertyDescriptor.label "2.5.4.20;lang-de" ∈
        (EntityDescriptor.labelled "2.5.4.20;lang-de").properties ∧
      (EntityDescriptor.labelled "2.5.4.20;lang-de").IsConsistentBut
        (.label "2.5.4.20;lang-de") := by
  have listed : PropertyDescriptor.label "2.5.4.20;lang-de" ∈
      (EntityDescriptor.labelled "2.5.4.20;lang-de").properties := by
    simp [EntityDescriptor.labelled]
  have sound := EntityDescriptor.isConsistentBut_labelled "2.5.4.20;lang-de"
  obtain ⟨accepted, -, described⟩ := Entity.resolve_attributeName_exact listed sound
  have valid : "2.5.4.20;lang-de".toList ∈ attributeNames :=
    isAttributeName_iff_mem.1 (by decide +kernel)
  obtain ⟨entity, resolved, -⟩ := accepted.2 valid
  exact ⟨⟨entity, resolved⟩, described.2 ⟨valid, by decide +kernel⟩, listed, sound⟩

theorem Entity.exists_resolve_labelled {name : String}
    (valid : isAttributeName (PropertyDescriptor.label name).effectiveAttribute = true) :
    ∃ entity, Entity.resolve (.labelled name) = .ok entity := by
  rw [Entity.exists_resolve_iff, (EntityDescriptor.isConsistentBut_labelled name).isConsistent_iff
    (by simp [EntityDescriptor.labelled])]
  exact isAttributeName_iff_mem.1 valid

/-- Object identifiers with a zero before other digits, or with digits of another script, are no
attribute descriptions, and yet properties may be stored under them. -/
theorem Entity.resolve_attributeName_stray :
    (∃ entity, Entity.resolve (.labelled "2.5.04") = .ok entity) ∧
      "2.5.04".toList ∉ attributeDescriptions ∧
      (∃ entity, Entity.resolve (.labelled "\u0662.\u0665") = .ok entity) ∧
      "\u0662.\u0665".toList ∉ attributeDescriptions := by
  have undescribed {name : String} (stray : ∃ part ∈ pointedParts name.toList, IsStray part) :
      name.toList ∉ attributeDescriptions := by
    obtain ⟨part, listed, stray⟩ := stray
    exact fun described => (mem_attributeDescriptions_iff.1 described).2 part listed stray
  refine ⟨Entity.exists_resolve_labelled (by decide +kernel), undescribed (by decide +kernel),
    Entity.exists_resolve_labelled (by decide +kernel), undescribed (by decide +kernel)⟩

end DirectoryQuery
