/-
Module: DirectoryQuery.Proofs.Search.Base
Purpose: Where a search starts.  Whatever the values of name components are, they lead to a place
  below the selected base, one step down for each value, and different values lead to different
  places.
Main exports:
  searchBase_eq_ok_iff, Query.assemble_eq_ok_iff, Query.base_below_selected
-/
import DirectoryQuery.Proofs.Entity.Composition
import DirectoryQuery.Proofs.Name.NormalForm
import DirectoryQuery.Proofs.Result
import DirectoryQuery.Search.Assembly
import DirectoryQuery.Value.Member

namespace DirectoryQuery

open DistinguishedName

variable {entity : Entity} {base : DistinguishedName}

/-- No values lead to the base itself. -/
theorem Entity.scopedBase_nil (entity : Entity) (base : DistinguishedName) :
    entity.scopedBase [] (some (.name base)) = .ok base := by
  have none (components : List Attribute) :
      components.filter (suppliedValue? [] · |>.isSome) = [] := by
    simp [suppliedValue?]
  simp [scopedBase, SearchBase.resolve, nullKey?, none, descend]

variable {filter : String} {parameters : SearchParameters} {defaults : SearchDefaults}
  {query : Query}

theorem readLimit_eq_ok_iff (limit : Limit) {value : Int} {most : Nat} :
    readLimit limit value = .ok most ↔ (most : Int) = value := by
  unfold readLimit
  split
  · next negative =>
      simp only [reduceCtorEq, false_iff]
      omega
  · next natural =>
      simp only [Except.ok.injEq]
      omega

/-- The base of a search is where its values of name components lead from the selected base. -/
theorem searchBase_eq_ok_iff {name : DistinguishedName} :
    searchBase entity parameters defaults = .ok name ↔
      ∃ base, (selectedBase entity parameters defaults).resolve = .ok base ∧
        entity.scopedBase parameters.componentValues (some (.name base)) = .ok name := by
  unfold searchBase
  cases (selectedBase entity parameters defaults).resolve with
  | error problem => simp
  | ok base =>
      simp only [Except.ok.injEq, exists_eq_left']
      split
      · next none => simp [List.isEmpty_iff.1 none, entity.scopedBase_nil]
      · exact mapError_eq_ok_iff

namespace Query

/-- The parts of a query.  Nothing else that a caller may ask for gets into it. -/
theorem assemble_eq_ok_iff :
    Query.assemble entity filter parameters defaults = .ok query ↔
      rejectedFeature? parameters defaults = none ∧
      searchBase entity parameters defaults = .ok query.base ∧
      query.filter = filter ∧
      query.scope = parameters.scope.getD defaults.scope ∧
      query.attributes = parameters.attributes.getD entity.persistedAttributes ∧
      (query.countLimit : Int) = parameters.countLimit.getD defaults.countLimit ∧
      (query.timeLimit : Int) = parameters.timeLimit.getD defaults.timeLimit := by
  rw [← readLimit_eq_ok_iff .count, ← readLimit_eq_ok_iff .time]
  obtain ⟨base, text, scope, attributes, countLimit, timeLimit⟩ := query
  unfold Query.assemble
  cases rejectedFeature? parameters defaults with
  | some feature => simp
  | none =>
      cases searchBase entity parameters defaults with
      | error problem => simp [bind, Except.bind]
      | ok name =>
          cases readLimit .count (parameters.countLimit.getD defaults.countLimit) with
          | error problem => simp [bind, Except.bind]
          | ok most =>
              cases readLimit .time (parameters.timeLimit.getD defaults.timeLimit) with
              | error problem => simp [bind, Except.bind]
              | ok longest => simp [bind, Except.bind, pure, Except.pure, eq_comm]

/-- A query has the base that was found and the filter that it was assembled for. -/
theorem parts_of_assemble
    (assembled : Query.assemble entity filter parameters defaults = .ok query) :
    searchBase entity parameters defaults = .ok query.base ∧ query.filter = filter := by
  obtain ⟨-, found, same, -⟩ := assemble_eq_ok_iff.1 assembled
  exact ⟨found, same⟩

theorem scopedBase_of_assemble
    (selected : (selectedBase entity parameters defaults).resolve = .ok base)
    (assembled : Query.assemble entity filter parameters defaults = .ok query) :
    entity.scopedBase parameters.componentValues (some (.name base)) = .ok query.base := by
  obtain ⟨start, selected', reached⟩ := searchBase_eq_ok_iff.1 (parts_of_assemble assembled).1
  cases selected.symm.trans selected'
  exact reached

/-- Values of name components cannot move a search out of its base, nor can they collide.  Cutting
the text of the base of a query at the commas without a backslash gives the relative names of the
selected base, and before these one relative name for each value, the one of the deepest component
first; each gives the attribute of its component a value and nothing else.  Two assignments of values
that differ in the components they cover, or in the text of a value, have different texts. -/
theorem base_below_selected (built : entity.Built)
    (read : ∃ text, DistinguishedName.parse text = .ok base)
    (distinct : (parameters.componentValues.map (·.1)).Nodup)
    (selected : (selectedBase entity parameters defaults).resolve = .ok base)
    (assembled : Query.assemble entity filter parameters defaults = .ok query) :
    (parameters.componentValues ≠ [] →
      ∃ components parts,
        components = entity.nameComponents.take parameters.componentValues.length ∧
        (parameters.componentValues.map (·.1)).Perm (components.map (·.property)) ∧
        List.Forall₂ (fun component part => IsRdnOf component.attributeName part)
          components.reverse parts ∧
        partsAt ',' query.base.text.toList = (parts ++ base.rdns).map String.toList) ∧
    ∀ (filter' : String) (parameters' : SearchParameters) (defaults' : SearchDefaults)
      (query' : Query),
      (parameters'.componentValues.map (·.1)).Nodup →
      (selectedBase entity parameters' defaults').resolve = .ok base →
      Query.assemble entity filter' parameters' defaults' = .ok query' →
      (∃ property, (parameters.componentValues.lookup property).map Value.rdnText ≠
        (parameters'.componentValues.lookup property).map Value.rdnText) →
      query.base.text ≠ query'.base.text := by
  obtain ⟨source, read⟩ := read
  have whole := isWhole_of_parse read
  have lead := built.leadTo_of_scopedBase distinct (scopedBase_of_assemble selected assembled)
  constructor
  · intro some
    refine ⟨_, _, lead.first, lead.named, lead.isRdnOf built, ?_⟩
    rw [← lead.rdns]
    apply partsAt_text
    · -- There is a component for each value, and at least one value.
      have length := lead.named.length_eq
      intro none
      rw [lead.rdns, List.append_eq_nil_iff, List.reverse_eq_nil_iff, List.map_eq_nil_iff] at none
      rw [none.1] at length
      simp at length
      exact some length
    · exact lead.isWhole built whole
  · intro filter' parameters' defaults' query' distinct' selected' assembled' different same
    obtain ⟨property, different⟩ := different
    have lead' := built.leadTo_of_scopedBase distinct' (scopedBase_of_assemble selected' assembled')
    have names := eq_of_text_eq (lead.isWhole built whole) (lead'.isWhole built whole) same
    rw [← names] at lead'
    exact different (lead.lookup_eq lead' property)

end Query

/-! ### An example -/

/-- The description of an employee, whose name hangs below the one of a department. -/
def EntityDescriptor.employee : EntityDescriptor where
  name := "Employee"
  objectClasses := ["person"]
  base := some "dc=acme, dc=org"
  properties := [
    { name := "dn", identifier := true, valueType := .dn },
    { name := "uid", componentIndex := some 1 },
    { name := "department", attributeName := some "ou", componentIndex := some 0 }]

/-- The entity of employees. -/
def Entity.employee : Entity where
  name := "Employee"
  objectClasses := ["person"]
  attributes := EntityDescriptor.employee.properties.map PropertyDescriptor.resolve
  base := ⟨["dc=acme", "dc=org"]⟩

namespace Entity

theorem componentIndices_employee :
    componentIndices EntityDescriptor.employee.properties = [0, 1] := by
  simp [componentIndices, EntityDescriptor.employee, List.mergeSort]

theorem nameComponents_employee :
    employee.nameComponents =
      [PropertyDescriptor.resolve
          { name := "department", attributeName := some "ou", componentIndex := some 0 },
        PropertyDescriptor.resolve { name := "uid", componentIndex := some 1 }] := by
  simp [nameComponents, employee, EntityDescriptor.employee, List.mergeSort,
    PropertyDescriptor.resolve, componentBefore]

theorem built_employee : employee.Built := by
  refine ⟨EntityDescriptor.employee, ⟨by decide, by decide⟩, ?_⟩
  have components : componentFault? EntityDescriptor.employee.properties = none := by
    rw [componentFault?, componentIndices_employee]
    decide +kernel
  have sound : fault? EntityDescriptor.employee = none := by
    unfold fault?
    rw [components]
    decide +kernel
  unfold resolve
  rw [sound]
  decide +kernel

end Entity

namespace Query

/-- A search below a department whose name looks like a way out, for the employee with some number.
-/
def belowDepartment (number : Value) : SearchParameters where
  componentValues := [("uid", number), ("department", .text "a\\,dc=b")]

/-- The query of an employee for some name. -/
def forEmployee (name : List String) : Query where
  base := ⟨name⟩
  filter := "(uid=*)"
  scope := .subtree
  attributes := ["uid", "ou"]
  countLimit := 0
  timeLimit := 0

theorem assemble_belowDepartment {number : Value} {name : List String}
    (reached : Entity.employee.scopedBase (belowDepartment number).componentValues
      (some (.name Entity.employee.base)) = .ok ⟨name⟩) :
    Query.assemble Entity.employee "(uid=*)" (belowDepartment number) {} =
      .ok (forEmployee name) := by
  have located : searchBase Entity.employee (belowDepartment number) {} = .ok ⟨name⟩ := by
    have selected : (selectedBase Entity.employee (belowDepartment number) {}).resolve =
        .ok Entity.employee.base := rfl
    rw [searchBase, selected]
    dsimp only
    rw [reached]
    rfl
  unfold Query.assemble
  rw [located]
  rfl

/-- The name of the employee whose number is a lone space. -/
def spaceName : List String := ["uid=\\\\ ", "ou=a\\\\\\,dc\\=b", "dc=acme", "dc=org"]

/-- The name of the employee whose number is a backslash and a space. -/
def backslashName : List String := ["uid=\\\\\\ ", "ou=a\\\\\\,dc\\=b", "dc=acme", "dc=org"]

theorem parse_employee :
    DistinguishedName.parse "dc=acme, dc=org" = .ok Entity.employee.base := by
  decide +kernel

theorem base_below_selected_employee :
    Entity.employee.Built ∧
      Query.assemble Entity.employee "(uid=*)" (belowDepartment (.text " ")) {} =
        .ok (forEmployee spaceName) ∧
      Query.assemble Entity.employee "(uid=*)" (belowDepartment (.text "\\ ")) {} =
        .ok (forEmployee backslashName) ∧
      (∃ parts : List String, parts.length = 2 ∧
        partsAt ',' (forEmployee spaceName).base.text.toList =
          (parts ++ ["dc=acme", "dc=org"]).map String.toList) ∧
      (forEmployee spaceName).base.text ≠ (forEmployee backslashName).base.text := by
  have space := @assemble_belowDepartment (.text " ") spaceName (by
    rw [Entity.scopedBase, Entity.nameComponents_employee]
    decide +kernel)
  have backslash := @assemble_belowDepartment (.text "\\ ") backslashName (by
    rw [Entity.scopedBase, Entity.nameComponents_employee]
    decide +kernel)
  obtain ⟨below, apart⟩ :=
    base_below_selected Entity.built_employee ⟨_, parse_employee⟩ (by decide) rfl space
  obtain ⟨components, parts, -, named, each, cut⟩ := below (by decide)
  refine ⟨Entity.built_employee, space, backslash, ⟨parts, ?_, cut⟩, ?_⟩
  · have length := each.length_eq
    rw [List.length_reverse, ← List.length_map (f := (·.property)), ← named.length_eq] at length
    exact length.symm
  · exact apart _ _ _ _ (by decide) rfl backslash ⟨"uid", by decide⟩

/-- The number of an employee as a text. -/
def seven : Value := .text "7"

/-- The same text as a member of an enumeration, which reads otherwise. -/
def memberSeven : Value := .member (.ofMember "Number" "SEVEN" seven) (.text "7") seven

/-- The name of the employee whose number is seven. -/
def sevenName : List String := ["uid=7", "ou=a\\\\\\,dc\\=b", "dc=acme", "dc=org"]

/-- Values that read differently may lead to one place: a text, and a member that is the same text but
reads as a member. -/
theorem base_shared_by_readings :
    Entity.employee.Built ∧
      DistinguishedName.parse "dc=acme, dc=org" = .ok Entity.employee.base ∧
      (selectedBase Entity.employee (belowDepartment seven) {}).resolve =
        .ok Entity.employee.base ∧
      (selectedBase Entity.employee (belowDepartment memberSeven) {}).resolve =
        .ok Entity.employee.base ∧
      ((belowDepartment seven).componentValues.lookup "uid").map Value.reading = some "7" ∧
      ((belowDepartment memberSeven).componentValues.lookup "uid").map Value.reading =
        some "Number.SEVEN" ∧
      Query.assemble Entity.employee "(uid=*)" (belowDepartment seven) {} =
        .ok (forEmployee sevenName) ∧
      Query.assemble Entity.employee "(uid=*)" (belowDepartment memberSeven) {} =
        .ok (forEmployee sevenName) := by
  refine ⟨Entity.built_employee, parse_employee, rfl, rfl, rfl, rfl, ?_, ?_⟩
  all_goals
    apply assemble_belowDepartment
    rw [Entity.scopedBase, Entity.nameComponents_employee]
    decide +kernel

end Query

end DirectoryQuery
