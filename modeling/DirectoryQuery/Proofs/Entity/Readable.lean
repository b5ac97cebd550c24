/-
Module: DirectoryQuery.Proofs.Entity.Readable
Purpose: Which composed names are read back when they are handed over as texts.
Main exports:
  Entity.isSettled_of_resolve, LeadTo.isSettled_iff, Entity.composed_name_reads_back
-/
import DirectoryQuery.Proofs.Entity.Composition
import DirectoryQuery.Proofs.Name.Readable
import DirectoryQuery.Proofs.Result

namespace DirectoryQuery.Entity

open DistinguishedName

variable {entity : Entity} {values : List (String × Value)} {given : Option SearchBase}
  {base name : DistinguishedName}

/-- A composition starts from the name that its base stands for. -/
theorem scopedBase_of_resolve (resolved : (given.getD (.name entity.base)).resolve = .ok base) :
    entity.scopedBase values given = entity.scopedBase values (some (.name base)) := by
  rw [scopedBase, scopedBase, resolved]
  rfl

/-- A composed name is a place below the base. -/
theorem scopedBase_of_composeName (composed : entity.composeName values given = .ok name) :
    entity.scopedBase values given = .ok name := by
  unfold composeName at composed
  split at composed
  · cases composed
  · split at composed
    · cases composed
    · exact composed

theorem resolve_plain_eq_ok_iff {text : String} :
    (SearchBase.plain text).resolve = .ok name ↔ parse text = .ok name := by
  rw [SearchBase.plain, SearchBase.resolve, mapError_eq_ok_iff]
  rfl

/-- A place below a base in normal form is in normal form if and only if each component on the way has
an attribute that may stand in a name and a value that is read back. -/
theorem LeadTo.isSettled_iff {components : List Attribute} (built : entity.Built)
    (lead : entity.LeadTo values base name components) (canonical : base.IsSettled) :
    name.IsSettled ↔ ∀ component ∈ components,
      attributeProblem? component.attributeName.toList = none ∧
        ReadsBack (componentText values component).toList := by
  let parts := components.reverse.map fun component =>
    (component.attributeName, componentText values component)
  have form : name = ⟨(parts.map fun part => rdn part.1 part.2) ++ base.rdns⟩ := by
    rw [DistinguishedName.mk.injEq, lead.rdns, List.map_map, ← List.map_reverse]
    rfl
  have plain : ∀ part ∈ parts, ∀ c ∈ part.1.toList, c ≠ '\\' ∧ c ∉ [',', '+', '='] := by
    intro part found
    obtain ⟨component, listed, rfl⟩ := List.mem_map.1 found
    exact built.plain_attributeName (lead.mem_nameComponents (List.mem_reverse.1 listed))
  rw [form, isSettled_append_iff plain, and_iff_left canonical]
  simp [parts]

/-- Which composed names are read back.  One level below a name that was read, a value gives such a name
if and only if it does not end in white space, begins with none but the space, and holds no number
sign behind its first character.  The name that values of name components lead to, handed over as a
text, is read as itself if and only if this holds of each of the values and each attribute is one
that may stand in a name. -/
theorem composed_name_reads_back {text : String} (read : parse text = .ok base) :
    (∀ attributeType value : String, attributeProblem? attributeType.toList = none → value ≠ "" →
      ∃ below, base.child? attributeType value = some below ∧
        (parse below.text = .ok below ↔ ReadsBack value.toList)) ∧
    ∀ (entity : Entity) (values : List (String × Value)) (given : Option SearchBase)
      (name : DistinguishedName), entity.Built → (values.map (·.1)).Nodup →
      (given.getD (.name entity.base)).resolve = .ok base →
      (entity.scopedBase values given = .ok name ∨ entity.composeName values given = .ok name) →
      ((SearchBase.plain name.text).resolve = .ok name ↔
        ∀ component ∈ entity.nameComponents.take values.length,
          attributeProblem? component.attributeName.toList = none ∧
            ReadsBack (componentText values component).toList) := by
  have canonical := isSettled_of_parse read
  constructor
  · intro attributeType value typed nonempty
    exact child?_reads_back canonical typed nonempty
  · intro entity values given name built distinct resolved composed
    have reached : entity.scopedBase values given = .ok name :=
      composed.elim id scopedBase_of_composeName
    rw [scopedBase_of_resolve resolved] at reached
    rw [resolve_plain_eq_ok_iff, ← DistinguishedName.isSettled_iff]
    exact (built.leadTo_of_scopedBase distinct reached).isSettled_iff built canonical

theorem nameComponents_person :
    person.nameComponents =
      [PropertyDescriptor.resolve { name := "uid", componentIndex := some 0 }] := by
  simp [nameComponents, person, EntityDescriptor.person, PropertyDescriptor.resolve]

/-- A comma in a value and a number sign in front of one are read back. -/
theorem composed_name_reads_back_person :
    parse "dc=com" = .ok ⟨["dc=com"]⟩ ∧
      (∃ below, child? ⟨["dc=com"]⟩ "cn" "#Smith, John" = some below ∧
        parse below.text = .ok below) ∧
      person.scopedBase [("uid", .text "a,b")] (some (.plain "dc=com")) =
        .ok ⟨["uid=a\\,b", "dc=com"]⟩ ∧
      (SearchBase.plain (DistinguishedName.text ⟨["uid=a\\,b", "dc=com"]⟩)).resolve =
        .ok ⟨["uid=a\\,b", "dc=com"]⟩ := by
  have read : parse "dc=com" = .ok ⟨["dc=com"]⟩ := by decide +kernel
  have reached : person.scopedBase [("uid", .text "a,b")] (some (.plain "dc=com")) =
      .ok ⟨["uid=a\\,b", "dc=com"]⟩ := by
    rw [scopedBase, nameComponents_person]
    decide +kernel
  obtain ⟨single, composed⟩ := composed_name_reads_back read
  obtain ⟨below, down, reads⟩ := single "cn" "#Smith, John" (by decide) (by decide)
  refine ⟨read, ⟨below, down, reads.2 (by decide +kernel)⟩, reached, ?_⟩
  have resolved : (SearchBase.plain "dc=com").resolve = .ok ⟨["dc=com"]⟩ :=
    resolve_plain_eq_ok_iff.2 read
  apply (composed person _ (some (.plain "dc=com")) _ built_person (by decide) resolved
    (.inl reached)).2
  rw [nameComponents_person]
  decide +kernel

/-- Below a name that was read, an attribute that may stand in a name and a value make up names that are
not read back: a space at the end of a value and a number sign inside of one are refused, and a lone
space is read as a backslash. -/
theorem composed_name_astray :
    attributeProblem? "cn".toList = none ∧
      parse "dc=com" = .ok ⟨["dc=com"]⟩ ∧
      child? ⟨["dc=com"]⟩ "cn" "a " = some ⟨["cn=a\\ ", "dc=com"]⟩ ∧
      parse (text ⟨["cn=a\\ ", "dc=com"]⟩) = .error ⟨"cn=a\\ ,dc=com", .invalidEnd⟩ ∧
      child? ⟨["dc=com"]⟩ "cn" "a#b" = some ⟨["cn=a#b", "dc=com"]⟩ ∧
      parse (text ⟨["cn=a#b", "dc=com"]⟩) =
        .error ⟨"cn=a#b,dc=com", .unescapedCharacter '#'⟩ ∧
      child? ⟨["dc=com"]⟩ "cn" " " = some ⟨["cn=\\\\ ", "dc=com"]⟩ ∧
      parse (text ⟨["cn=\\\\ ", "dc=com"]⟩) = .ok ⟨["cn=\\\\", "dc=com"]⟩ := by
  decide +kernel

end DirectoryQuery.Entity
