/-
Module: DirectoryQuery.Proofs.Entity.Composition
Purpose: Where the values of name components lead.  They name the first components, and the name they
  lead to has one relative name for each of these before the relative names of the base, the one of
  the deepest component first.  Different values lead to different names.
Main exports:
  Entity.componentText, Entity.componentRdn, Entity.HasRdn, Entity.Composes,
  Entity.composes_scopedBase, Built.scopedBase_eq_ok_iff, Entity.LeadTo,
  Built.leadTo_of_scopedBase, LeadTo.isWhole, LeadTo.lookup_eq
-/
import DirectoryQuery.Entity.Composition
import DirectoryQuery.Proofs.Association
import DirectoryQuery.Proofs.Entity.AttributeName
import DirectoryQuery.Proofs.Entity.Built
import DirectoryQuery.Proofs.Name.Text
import Mathlib.Data.List.Forall2

namespace DirectoryQuery.Entity

open DistinguishedName

/-! ### Name components -/

variable {entity : Entity} {values : List (String × Value)}

theorem Built.nodup_nameComponents (built : entity.Built) :
    (entity.nameComponents.map (·.property)).Nodup := by
  have sorted := (List.mergeSort_perm
    (entity.attributes.filter (·.componentIndex.isSome)) componentBefore).map (·.property)
  rw [nameComponents, sorted.nodup_iff]
  exact built.nodup_propertyNames.sublist (List.filter_sublist.map _)

/-- An attribute name holds no backslash and none of the characters that divide a name. -/
theorem Built.plain_attributeName (built : entity.Built) {component : Attribute}
    (listed : component ∈ entity.nameComponents) :
    ∀ c ∈ component.attributeName.toList, c ≠ '\\' ∧ c ∉ [',', '+', '='] := by
  intro c found
  have valid := built.isAttributeName (mem_nameComponents_iff.1 listed).1
  have ordinary := (mem_attributeName valid).2 c found
  constructor
  · rintro rfl
    exact absurd ordinary (by decide)
  · intro dividing
    simp only [List.mem_cons, List.not_mem_nil, or_false] at dividing
    rcases dividing with rfl | rfl | rfl <;> exact absurd ordinary (by decide)

/-! ### Supplied values -/

theorem suppliedValue?_eq_lookup (given : ∀ pair ∈ values, pair.2.isNull = false)
    (component : Attribute) : suppliedValue? values component = values.lookup component.property := by
  unfold suppliedValue?
  split
  · next null =>
      obtain ⟨before, after, split, -⟩ := List.lookup_eq_some_iff.1 null
      have listed : (component.property, Value.null) ∈ values := by simp [split]
      cases given _ listed
  · rfl

/-- The text that the values give to a name component. -/
def componentText (values : List (String × Value)) (component : Attribute) : String :=
  ((values.lookup component.property).map Value.rdnText).getD ""

/-- The relative name that the values give to a name component. -/
def componentRdn (values : List (String × Value)) (component : Attribute) : String :=
  rdn component.attributeName (componentText values component)

/-- The values give a name component a relative name: its value can be read, and neither the attribute
nor the text is empty. -/
def HasRdn (values : List (String × Value)) (component : Attribute) : Prop :=
  (values.lookup component.property).any Value.isUnreadable = false ∧
    component.attributeName ≠ "" ∧ componentText values component ≠ ""

theorem descend_cons_eq_ok_iff (given : ∀ pair ∈ values, pair.2.isNull = false)
    {component : Attribute} {rest : List Attribute} {name result : DistinguishedName} :
    descend values name (component :: rest) = .ok result ↔
      HasRdn values component ∧
        descend values ⟨componentRdn values component :: name.rdns⟩ rest = .ok result := by
  rw [descend, suppliedValue?_eq_lookup given, ← componentText, HasRdn]
  by_cases unread : (values.lookup component.property).any Value.isUnreadable = true
  · simp [unread]
  · by_cases empty : component.attributeName = "" ∨ componentText values component = ""
    · rw [if_neg unread, child?, if_pos empty]
      simp only [reduceCtorEq, false_iff]
      tauto
    · rw [if_neg unread, child?, if_neg empty]
      rw [not_or] at empty
      simp [empty, Bool.eq_false_iff.2 unread, componentRdn]

/-- Going down from a name puts one relative name after the other before it. -/
theorem descend_eq_ok_iff (given : ∀ pair ∈ values, pair.2.isNull = false)
    {components : List Attribute} {name result : DistinguishedName} :
    descend values name components = .ok result ↔
      (∀ component ∈ components, HasRdn values component) ∧
        result.rdns = (components.map (componentRdn values)).reverse ++ name.rdns := by
  induction components generalizing name with
  | nil =>
      cases name
      cases result
      simp [descend, eq_comm]
  | cons component rest ih =>
      rw [descend_cons_eq_ok_iff given, ih, List.forall_mem_cons, and_assoc, List.map_cons,
        List.reverse_cons, List.append_assoc, List.singleton_append]

/-! ### Components with a value -/

/-- The name components that have a value. -/
def supplied (entity : Entity) (values : List (String × Value)) : List Attribute :=
  entity.nameComponents.filter (suppliedValue? values · |>.isSome)

theorem mem_supplied_iff (given : ∀ pair ∈ values, pair.2.isNull = false) {component : Attribute} :
    component ∈ entity.supplied values ↔
      component ∈ entity.nameComponents ∧ component.property ∈ values.map (·.1) := by
  rw [supplied, List.mem_filter, suppliedValue?_eq_lookup given, lookup_isSome_iff_mem_keys]

theorem supplied_sublist : (entity.supplied values).Sublist entity.nameComponents :=
  List.filter_sublist

/-- The components that have a value are those that the keys name. -/
theorem perm_supplied (built : entity.Built) (distinct : (values.map (·.1)).Nodup)
    (known : ∀ key ∈ values.map (·.1), key ∈ entity.nameComponents.map (·.property))
    (given : ∀ pair ∈ values, pair.2.isNull = false) :
    (values.map (·.1)).Perm ((entity.supplied values).map (·.property)) := by
  rw [List.perm_ext_iff_of_nodup distinct
    (built.nodup_nameComponents.sublist (supplied_sublist.map _))]
  intro key
  rw [List.mem_map (f := Attribute.property)]
  constructor
  · intro found
    obtain ⟨component, listed, rfl⟩ := List.mem_map.1 (known key found)
    exact ⟨component, (mem_supplied_iff given).2 ⟨listed, found⟩, rfl⟩
  · rintro ⟨component, found, rfl⟩
    exact ((mem_supplied_iff given).1 found).2

/-- If the keys name the first components, then these are the components that have a value. -/
theorem supplied_eq_take (built : entity.Built) {count : Nat}
    (named : (values.map (·.1)).Perm ((entity.nameComponents.take count).map (·.property)))
    (given : ∀ pair ∈ values, pair.2.isNull = false) :
    entity.supplied values = entity.nameComponents.take count := by
  have distinct := built.nodup_nameComponents
  rw [supplied]
  generalize entity.nameComponents = components at named distinct ⊢
  have covered (component : Attribute) : (suppliedValue? values component).isSome = true ↔
      component.property ∈ (components.take count).map (·.property) := by
    rw [suppliedValue?_eq_lookup given, lookup_isSome_iff_mem_keys, named.mem_iff]
  rw [← List.take_append_drop count components, List.map_append] at distinct
  have apart := List.disjoint_of_nodup_append distinct
  have first : (components.take count).filter (suppliedValue? values · |>.isSome) =
      components.take count :=
    List.filter_eq_self.2 fun component listed => (covered component).2 (List.mem_map_of_mem listed)
  have none : (components.drop count).filter (suppliedValue? values · |>.isSome) = [] :=
    List.filter_eq_nil_iff.2 fun component listed supplied =>
      apart ((covered component).1 supplied) (List.mem_map_of_mem listed)
  calc components.filter (suppliedValue? values · |>.isSome)
    _ = (components.take count ++ components.drop count).filter
        (suppliedValue? values · |>.isSome) := by rw [List.take_append_drop]
    _ = components.take count := by rw [List.filter_append, first, none, List.append_nil]

/-- If the components that pass a test are not the first ones, then behind one that does not pass
another one does. -/
theorem exists_behind_gap {components : List Attribute} {test : Attribute → Bool}
    (scattered : components.filter test ≠ components.take (components.filter test).length) :
    ∃ before component after later, components = before ++ component :: after ∧
      components.find? (· ∉ components.filter test) = some component ∧
      component ∉ components.filter test ∧ later ∈ after ∧ later ∈ components.filter test := by
  cases found : components.find? (· ∉ components.filter test) with
  | none =>
      exfalso
      apply scattered
      have all : components.filter test = components := by
        rw [List.filter_eq_self]
        intro component listed
        have inside := List.find?_eq_none.1 found component listed
        simp only [decide_eq_true_eq, not_not] at inside
        exact List.of_mem_filter inside
      rw [all, List.take_length]
  | some component =>
      obtain ⟨missing, before, after, split, front⟩ := List.find?_eq_some_iff_append.1 found
      rw [decide_eq_true_eq] at missing
      refine ⟨before, component, after, ?_⟩
      by_contra none
      push Not at none
      apply scattered
      -- What passes the test is all that comes before the gap.
      have passing : before.filter test = before := by
        rw [List.filter_eq_self]
        intro earlier sooner
        have inside := front earlier sooner
        simp only [Bool.not_eq_true', decide_eq_false_iff_not, not_not] at inside
        exact (List.mem_filter.1 inside).2
      have failing : (component :: after).filter test = [] := by
        rw [List.filter_eq_nil_iff]
        intro other listed passed
        have inside : other ∈ components.filter test := by
          rw [List.mem_filter, split]
          exact ⟨List.mem_append_right before listed, passed⟩
        rcases List.mem_cons.1 listed with rfl | behind
        · exact missing inside
        · exact none other split rfl missing behind inside
      have first : components.filter test = before := by
        rw [split, List.filter_append, passing, failing, List.append_nil]
      rw [first, split, List.take_left]

/-! ### Places below a base -/

/-- The place below a base that values of the first name components lead to: the name there has a
relative name for each of these components, the one of the deepest component first, and then the
relative names of the base. -/
structure LeadTo (entity : Entity) (values : List (String × Value)) (base name : DistinguishedName)
    (components : List Attribute) : Prop where
  first : components = entity.nameComponents.take values.length
  named : (values.map (·.1)).Perm (components.map (·.property))
  rdns : name.rdns = (components.map (componentRdn values)).reverse ++ base.rdns

/-- What becomes of values below a base: a key names no component, a value is null, a component is left
out before one that has a value, or the components that have a value are the first ones and lead
down. -/
inductive Composes (entity : Entity) (values : List (String × Value)) (base : DistinguishedName) :
    Except CompositionError DistinguishedName → Prop where
  | notAComponent {key : String} (listed : key ∈ values.map (·.1))
      (unknown : key ∉ entity.nameComponents.map (·.property)) :
      Composes entity values base (.error (.notAComponent entity.name key))
  | noValue {key : String} (listed : (key, .null) ∈ values) :
      Composes entity values base (.error (.noValue entity.name key))
  | gap {before after : List Attribute} {component later : Attribute}
      (given : ∀ pair ∈ values, pair.2.isNull = false)
      (split : entity.nameComponents = before ++ component :: after)
      (missing : component ∉ entity.supplied values) (behind : later ∈ after)
      (present : later ∈ entity.supplied values) :
      Composes entity values base (.error (.gap entity.name component.property))
  | down {result : Except CompositionError DistinguishedName}
      (known : ∀ key ∈ values.map (·.1), key ∈ entity.nameComponents.map (·.property))
      (given : ∀ pair ∈ values, pair.2.isNull = false)
      (first : entity.supplied values =
        entity.nameComponents.take (entity.supplied values).length)
      (reached : descend values base (entity.supplied values) = result) :
      Composes entity values base result

theorem nullKey?_eq_none_iff :
    nullKey? values = none ↔ ∀ pair ∈ values, pair.2.isNull = false := by
  simp [nullKey?]

theorem mem_of_nullKey? {key : String} (null : nullKey? values = some key) :
    (key, .null) ∈ values := by
  obtain ⟨⟨key, value⟩, found, rfl⟩ := Option.map_eq_some_iff.1 null
  have test := List.find?_some found
  have isNull : value = .null := by
    cases value <;> first | rfl | cases test
  rw [isNull] at found
  exact List.mem_of_find?_eq_some found

theorem composes_scopedBase (entity : Entity) (values : List (String × Value))
    (base : DistinguishedName) :
    entity.Composes values base (entity.scopedBase values (some (.name base))) := by
  rw [scopedBase, Option.getD_some, SearchBase.resolve]
  dsimp only
  split
  · next key value found =>
      have unknown := List.find?_some found
      refine .notAComponent (List.mem_map_of_mem (List.mem_of_find?_eq_some found)) ?_
      simpa using unknown
  · next covered =>
      have known : ∀ key ∈ values.map (·.1), key ∈ entity.nameComponents.map (·.property) := by
        intro key found
        obtain ⟨pair, listed, rfl⟩ := List.mem_map.1 found
        simpa using List.find?_eq_none.1 covered pair listed
      split
      · next key null => exact .noValue (mem_of_nullKey? null)
      · next noNull =>
          have given := nullKey?_eq_none_iff.1 noNull
          split
          · next first => exact .down known given first rfl
          · next scattered =>
              obtain ⟨before, component, after, later, split, found, missing, behind, present⟩ :=
                exists_behind_gap scattered
              rw [found]
              exact .gap given split missing behind present

/-- Values lead to a place below a base if and only if they are values of the first name components and
give each of these a relative name. -/
theorem Built.scopedBase_eq_ok_iff (built : entity.Built) (distinct : (values.map (·.1)).Nodup)
    {base name : DistinguishedName} :
    entity.scopedBase values (some (.name base)) = .ok name ↔
      (values.map (·.1)).Perm
        ((entity.nameComponents.take values.length).map (·.property)) ∧
      (∀ pair ∈ values, pair.2.isNull = false) ∧
      descend values base (entity.nameComponents.take values.length) = .ok name := by
  constructor
  · intro reached
    have outcome := composes_scopedBase entity values base
    rw [reached] at outcome
    cases outcome with
    | down known given first reached =>
        have named := perm_supplied built distinct known given
        have length : (entity.supplied values).length = values.length := by
          simpa using named.length_eq.symm
        rw [first, length] at named reached
        exact ⟨named, given, reached⟩
  · rintro ⟨named, given, reached⟩
    have known : values.find?
        (fun pair => !(entity.nameComponents.any (·.property == pair.1))) = none := by
      rw [List.find?_eq_none]
      intro pair listed
      have covered := named.mem_iff.1 (List.mem_map_of_mem listed)
      obtain ⟨component, first, same⟩ := List.mem_map.1 covered
      simpa using ⟨component, List.mem_of_mem_take first, same⟩
    have all := supplied_eq_take built named given
    rw [supplied] at all
    rw [scopedBase, Option.getD_some, SearchBase.resolve]
    dsimp only
    rw [known]
    dsimp only
    rw [nullKey?_eq_none_iff.2 given]
    dsimp only
    rw [all, if_pos]
    · exact reached
    · simp [List.take_eq_take_iff]

/-- Values lead to a place below a base only if they are values of the first name components. -/
theorem Built.leadTo_of_scopedBase (built : entity.Built) (distinct : (values.map (·.1)).Nodup)
    {base name : DistinguishedName}
    (reached : entity.scopedBase values (some (.name base)) = .ok name) :
    entity.LeadTo values base name (entity.nameComponents.take values.length) := by
  obtain ⟨named, given, descended⟩ := (built.scopedBase_eq_ok_iff distinct).1 reached
  exact ⟨rfl, named, ((descend_eq_ok_iff given).1 descended).2⟩

namespace LeadTo

variable {base name : DistinguishedName} {components : List Attribute}

theorem mem_nameComponents (lead : entity.LeadTo values base name components)
    {component : Attribute} (listed : component ∈ components) :
    component ∈ entity.nameComponents := by
  rw [lead.first] at listed
  exact List.mem_of_mem_take listed

/-- The place below a base of whole relative names has whole relative names. -/
theorem isWhole (built : entity.Built) (lead : entity.LeadTo values base name components)
    (each : ∀ rdn ∈ base.rdns, IsWhole rdn) : ∀ rdn ∈ name.rdns, IsWhole rdn := by
  intro part found
  rw [lead.rdns, List.mem_append, List.mem_reverse, List.mem_map] at found
  rcases found with ⟨component, listed, rfl⟩ | found
  · exact isWhole_rdn (built.plain_attributeName (lead.mem_nameComponents listed)) _
  · exact each part found

/-- Each new relative name gives the attribute of its component a value and nothing else. -/
theorem isRdnOf (built : entity.Built) (lead : entity.LeadTo values base name components) :
    List.Forall₂ (fun component part => IsRdnOf component.attributeName part) components.reverse
      (components.map (componentRdn values)).reverse := by
  rw [← List.map_reverse, List.forall₂_map_right_iff, List.forall₂_same]
  intro component listed
  rw [List.mem_reverse] at listed
  exact isRdnOf_rdn (built.plain_attributeName (lead.mem_nameComponents listed)) _

/-- Values that lead to one place give the same components the same texts. -/
theorem lookup_eq {values' : List (String × Value)} {components' : List Attribute}
    (lead : entity.LeadTo values base name components)
    (lead' : entity.LeadTo values' base name components') (property : String) :
    (values.lookup property).map Value.rdnText = (values'.lookup property).map Value.rdnText := by
  have rdns : components.map (componentRdn values) = components'.map (componentRdn values') := by
    have both := lead.rdns.symm.trans lead'.rdns
    rw [List.append_cancel_right_eq, List.reverse_inj] at both
    exact both
  have same : components = components' := by
    have count := congrArg List.length rdns
    rw [List.length_map, List.length_map] at count
    have length : values.length = values'.length := by
      have here := lead.named.length_eq
      have there := lead'.named.length_eq
      simp only [List.length_map] at here there
      omega
    rw [lead.first, lead'.first, length]
  subst same
  have keys (key : String) : (values.lookup key).isSome = (values'.lookup key).isSome := by
    rw [Bool.eq_iff_iff, lookup_isSome_iff_mem_keys, lookup_isSome_iff_mem_keys,
      lead.named.mem_iff, lead'.named.mem_iff]
  cases found : values.lookup property with
  | none =>
      have missing := keys property
      rw [found] at missing
      rw [Option.isNone_iff_eq_none.1 (Option.isSome_eq_false_iff.1 missing.symm)]
  | some value =>
      have present := keys property
      rw [found] at present
      obtain ⟨value', found'⟩ := Option.isSome_iff_exists.1 present.symm
      have listed : property ∈ components.map (·.property) := by
        rw [← lead.named.mem_iff, ← lookup_isSome_iff_mem_keys, found]
        rfl
      obtain ⟨component, covered, rfl⟩ := List.mem_map.1 listed
      have one := List.map_inj_left.1 rdns component covered
      have text := eq_of_rdn_eq one
      simpa [componentText, found, found'] using text

end LeadTo

end DirectoryQuery.Entity
