/-
Module: DirectoryQuery.Proofs.Entity.Coverage
Purpose: Which values lead to a name.  They are values of the first name components, in any order, and
  each has a text; for the name of an entry they are values of all name components.  Other values are
  refused, and the complaint names a property that is at fault.
Main exports:
  Entity.Covers, Built.scopedBase_iff_covers, Entity.Refuses, Built.refuses_of_scopedBase,
  Built.composeName_eq_ok_iff, Entity.composed_exactly
-/
import DirectoryQuery.Proofs.Entity.Layout
import DirectoryQuery.Proofs.Entity.Readable
import DirectoryQuery.Value.Member

namespace DirectoryQuery.Entity

open DistinguishedName

/-! ### Covered components -/

/-- Values cover the first name components: they are values of these and of nothing else, none of them
is null, and each can be read and has a text. -/
structure Covers (entity : Entity) (values : List (String × Value)) (count : Nat) : Prop where
  bounded : count ≤ entity.nameComponents.length
  named : (values.map (·.1)).Perm ((entity.nameComponents.take count).map (·.property))
  worded : ∀ pair ∈ values,
    pair.2.isNull = false ∧ pair.2.isUnreadable = false ∧ pair.2.rdnText ≠ ""

variable {entity : Entity} {values others : List (String × Value)} {given : Option SearchBase}
  {base name : DistinguishedName} {count : Nat} {error : CompositionError}

theorem Covers.length_eq (covered : entity.Covers values count) : values.length = count := by
  have length := covered.named.length_eq
  have bounded := covered.bounded
  simp only [List.length_map, List.length_take] at length
  omega

theorem Covers.perm (covered : entity.Covers values count) (same : values.Perm others) :
    entity.Covers others count where
  bounded := covered.bounded
  named := (same.map _).symm.trans covered.named
  worded := fun pair listed => covered.worded pair (same.mem_iff.2 listed)

theorem Built.attributeName_ne_empty (built : entity.Built) {component : Attribute}
    (listed : component ∈ entity.nameComponents) : component.attributeName ≠ "" := by
  have valid := built.isAttributeName (mem_nameComponents_iff.1 listed).1
  intro empty
  apply (mem_attributeName valid).1
  rw [empty]
  rfl

/-- Each covered component gets a relative name just if each value can be read and has a text. -/
theorem forall_hasRdn_iff (built : entity.Built) (distinct : (values.map (·.1)).Nodup)
    (named : (values.map (·.1)).Perm ((entity.nameComponents.take count).map (·.property))) :
    (∀ component ∈ entity.nameComponents.take count, HasRdn values component) ↔
      ∀ pair ∈ values, pair.2.isUnreadable = false ∧ pair.2.rdnText ≠ "" := by
  constructor
  · intro each pair listed
    obtain ⟨component, first, same⟩ :=
      List.mem_map.1 (named.mem_iff.1 (List.mem_map_of_mem listed))
    obtain ⟨read, -, text⟩ := each component first
    have found : values.lookup component.property = some pair.2 := by
      rw [lookup_eq_some_iff_mem distinct, same]
      exact listed
    rw [found, Option.any_some] at read
    rw [componentText, found] at text
    exact ⟨read, text⟩
  · intro each component first
    obtain ⟨pair, listed, same⟩ :=
      List.mem_map.1 (named.mem_iff.2 (List.mem_map_of_mem first))
    obtain ⟨read, text⟩ := each pair listed
    have found : values.lookup component.property = some pair.2 := by
      rw [lookup_eq_some_iff_mem distinct, ← same]
      exact listed
    refine ⟨?_, built.attributeName_ne_empty (List.mem_of_mem_take first), ?_⟩
    · rw [found, Option.any_some, read]
    · rw [componentText, found]
      exact text

/-- Values lead to a place below a base just if they cover the first name components. -/
theorem Built.scopedBase_iff_covers (built : entity.Built) (distinct : (values.map (·.1)).Nodup) :
    entity.scopedBase values (some (.name base)) = .ok name ↔
      ∃ count, entity.Covers values count ∧
        name.rdns =
          ((entity.nameComponents.take count).map (componentRdn values)).reverse ++ base.rdns := by
  rw [built.scopedBase_eq_ok_iff distinct]
  constructor
  · rintro ⟨named, noNull, reached⟩
    obtain ⟨each, rdns⟩ := (descend_eq_ok_iff noNull).1 reached
    refine ⟨values.length, ⟨?_, named, ?_⟩, rdns⟩
    · have length := named.length_eq
      simp only [List.length_map, List.length_take] at length
      omega
    · intro pair listed
      exact ⟨noNull pair listed, (forall_hasRdn_iff built distinct named).1 each pair listed⟩
  · rintro ⟨count, covered, rdns⟩
    have noNull : ∀ pair ∈ values, pair.2.isNull = false := fun pair listed =>
      (covered.worded pair listed).1
    rw [covered.length_eq, descend_eq_ok_iff noNull,
      forall_hasRdn_iff built distinct covered.named]
    exact ⟨covered.named, noNull, fun pair listed => (covered.worded pair listed).2, rdns⟩

/-- The order of the values does not matter. -/
theorem componentRdn_eq_of_perm (distinct : (values.map (·.1)).Nodup) (same : values.Perm others) :
    componentRdn values = componentRdn others := by
  funext component
  rw [componentRdn, componentRdn, componentText, componentText, lookup_eq_of_perm same distinct]

/-! ### Refused values -/

/-- A complaint about values that is right: a key names no name component, a value is null, a name
component is left out before one that has a value, or a value cannot be read or has no text.  For the
name of an entry there are no name components at all, or some of them have no value. -/
inductive Refuses (entity : Entity) (values : List (String × Value)) : CompositionError → Prop where
  | notAComponent {key : String} (listed : key ∈ values.map (·.1))
      (unknown : key ∉ entity.nameComponents.map (·.property)) :
      Refuses entity values (.notAComponent entity.name key)
  | noValue {key : String} (listed : (key, .null) ∈ values) :
      Refuses entity values (.noValue entity.name key)
  | gap {before after : List Attribute} {component later : Attribute}
      (split : entity.nameComponents = before ++ component :: after)
      (missing : component.property ∉ values.map (·.1)) (behind : later ∈ after)
      (present : later.property ∈ values.map (·.1)) :
      Refuses entity values (.gap entity.name component.property)
  | unwrittenNumber {key : String} {value : Value} (listed : (key, value) ∈ values)
      (long : value.isUnreadable = true) : Refuses entity values (.unwrittenNumber key)
  | emptyPart {key : String} {value : Value} (listed : (key, value) ∈ values)
      (empty : value.rdnText = "") : Refuses entity values (.emptyPart key)
  | noComponents (none : entity.nameComponents = []) :
      Refuses entity values (.noComponents entity.name)
  | missingValues {first : String} {rest : List String}
      (each : ∀ key ∈ first :: rest, key ∈ entity.nameComponents.map (·.property) ∧
        (values.lookup key).getD .null = .null) :
      Refuses entity values (.missingValues entity.name first rest)

theorem refuses_of_descend (built : entity.Built) (noNull : ∀ pair ∈ values, pair.2.isNull = false)
    {components : List Attribute}
    (inside : ∀ component ∈ components, component ∈ entity.supplied values)
    (failed : descend values name components = .error error) : entity.Refuses values error := by
  induction components generalizing name with
  | nil => cases failed
  | cons component rest ih =>
      obtain ⟨here, later⟩ := List.forall_mem_cons.1 inside
      obtain ⟨placed, some⟩ := List.mem_filter.1 here
      obtain ⟨value, supplied⟩ := Option.isSome_iff_exists.1 some
      have listed : (component.property, value) ∈ values := by
        rw [suppliedValue?_eq_lookup noNull] at supplied
        obtain ⟨before, after, split, -⟩ := List.lookup_eq_some_iff.1 supplied
        simp [split]
      rw [descend, supplied] at failed
      split at failed
      · next long =>
          cases failed
          exact .unwrittenNumber listed long
      · split at failed
        · exact ih later failed
        · next nowhere =>
            cases failed
            have empty : component.attributeName ≠ "" → value.rdnText = "" := by
              simpa [child?] using nowhere
            exact .emptyPart listed (empty (built.attributeName_ne_empty placed))

/-- Values that lead to no place below a base are refused with a complaint that is right. -/
theorem Built.refuses_of_scopedBase (built : entity.Built)
    (failed : entity.scopedBase values (some (.name base)) = .error error) :
    entity.Refuses values error := by
  have outcome := composes_scopedBase entity values base
  rw [failed] at outcome
  cases outcome with
  | notAComponent listed unknown => exact .notAComponent listed unknown
  | noValue listed => exact .noValue listed
  | gap given split missing behind present =>
      refine .gap split ?_ behind ((mem_supplied_iff given).1 present).2
      intro named
      apply missing
      exact (mem_supplied_iff given).2 ⟨by simp [split], named⟩
  | down known given first failed =>
      exact refuses_of_descend built given (fun component listed => listed) failed

/-! ### Names of entries -/

theorem composeName_eq_ok_iff_supplied :
    entity.composeName values given = .ok name ↔
      entity.nameComponents ≠ [] ∧
        (∀ component ∈ entity.nameComponents, (suppliedValue? values component).isSome = true) ∧
        entity.scopedBase values given = .ok name := by
  unfold composeName
  split
  · next empty => simp [empty]
  · next some =>
      split
      · next first rest missing =>
          constructor
          · rintro ⟨⟩
          · rintro ⟨-, all, -⟩
            have listed : first ∈ entity.nameComponents.filter (suppliedValue? values · |>.isNone) := by
              rw [missing]
              exact List.mem_cons_self
            obtain ⟨listed, without⟩ := List.mem_filter.1 listed
            have supplied := all first listed
            rw [Option.isNone_iff_eq_none.1 without] at supplied
            cases supplied
      · next complete =>
          have all : ∀ component ∈ entity.nameComponents,
              (suppliedValue? values component).isSome = true := by
            intro component listed
            simpa [Option.isSome_iff_ne_none] using
              List.filter_eq_nil_iff.1 complete component listed
          exact ⟨fun reached => ⟨some, all, reached⟩, fun composed => composed.2.2⟩

theorem refuses_of_composeName (failed : entity.composeName values given = .error error) :
    entity.Refuses values error ∨ entity.scopedBase values given = .error error := by
  unfold composeName at failed
  split at failed
  · next empty =>
      cases failed
      exact .inl (.noComponents empty)
  · split at failed
    · next first rest missing =>
        cases failed
        refine .inl (.missingValues ?_)
        intro key named
        rw [← List.map_cons, ← missing] at named
        obtain ⟨component, listed, rfl⟩ := List.mem_map.1 named
        obtain ⟨listed, without⟩ := List.mem_filter.1 listed
        refine ⟨List.mem_map_of_mem listed, ?_⟩
        unfold suppliedValue? at without
        split at without
        · next null => rw [null, Option.getD_some]
        · rw [Option.isNone_iff_eq_none.1 without, Option.getD_none]
    · exact .inr failed

/-- The name of an entry is composed just if the values cover all name components. -/
theorem Built.composeName_eq_ok_iff (built : entity.Built) (distinct : (values.map (·.1)).Nodup)
    (resolved : (given.getD (.name entity.base)).resolve = .ok base) :
    entity.composeName values given = .ok name ↔
      entity.nameComponents ≠ [] ∧ entity.Covers values entity.nameComponents.length ∧
        entity.scopedBase values given = .ok name := by
  rw [composeName_eq_ok_iff_supplied]
  constructor
  · rintro ⟨some, all, reached⟩
    have reached' := reached
    rw [scopedBase_of_resolve resolved, built.scopedBase_iff_covers distinct] at reached'
    obtain ⟨count, covered, -⟩ := reached'
    have first := supplied_eq_take built covered.named fun pair listed =>
      (covered.worded pair listed).1
    rw [supplied, List.filter_eq_self.2 all] at first
    have whole : count = entity.nameComponents.length := by
      have length := congrArg List.length first
      rw [List.length_take] at length
      have bounded := covered.bounded
      omega
    exact ⟨some, whole ▸ covered, reached⟩
  · rintro ⟨some, covered, reached⟩
    have all := supplied_eq_take built covered.named fun pair listed =>
      (covered.worded pair listed).1
    rw [List.take_length, supplied, List.filter_eq_self] at all
    exact ⟨some, all, reached⟩

theorem Built.componentIndex_eq (built : entity.Built) {rank : Nat} {component : Attribute}
    (placed : entity.nameComponents[rank]? = some component) :
    component.componentIndex = some rank := by
  obtain ⟨descriptor, -, resolved⟩ := built
  obtain ⟨consistent, start, -, rfl⟩ := resolve_eq_ok_iff.1 resolved
  exact (isLaidOut_of_isConsistent consistent rfl).componentAt placed

/-- Values lead to a name just if they cover the first name components, each of which stands at the
place of its index.  The name has one relative name for each of these, the last one first, and then
the relative names of the base; the order of the values makes no difference.  The name of an entry is
the one to which values of all name components lead, of which there have to be some.  Whatever else is
given is refused with a complaint that is right. -/
theorem composed_exactly (built : entity.Built) (distinct : (values.map (·.1)).Nodup)
    (resolved : (given.getD (.name entity.base)).resolve = .ok base) :
    (∀ (rank : Nat) (component : Attribute), entity.nameComponents[rank]? = some component →
      component.componentIndex = some rank) ∧
    (∀ name, entity.scopedBase values given = .ok name ↔
      ∃ count, entity.Covers values count ∧
        name.rdns =
          ((entity.nameComponents.take count).map (componentRdn values)).reverse ++ base.rdns) ∧
    (∀ others, values.Perm others → ∀ name, entity.scopedBase others given = .ok name ↔
      entity.scopedBase values given = .ok name) ∧
    (∀ name, entity.composeName values given = .ok name ↔
      entity.nameComponents ≠ [] ∧ entity.Covers values entity.nameComponents.length ∧
        entity.scopedBase values given = .ok name) ∧
    ∀ error, (entity.scopedBase values given = .error error ∨
      entity.composeName values given = .error error) → entity.Refuses values error := by
  rw [scopedBase_of_resolve resolved]
  refine ⟨fun rank component => built.componentIndex_eq,
    fun name => built.scopedBase_iff_covers distinct, ?_, ?_, ?_⟩
  · intro others same name
    have distinct' : (others.map (·.1)).Nodup := (same.map _).nodup_iff.1 distinct
    rw [scopedBase_of_resolve resolved, built.scopedBase_iff_covers distinct,
      built.scopedBase_iff_covers distinct', componentRdn_eq_of_perm distinct same]
    exact exists_congr fun count => and_congr_left fun _ =>
      ⟨fun covered => covered.perm same.symm, fun covered => covered.perm same⟩
  · intro name
    rw [← scopedBase_of_resolve resolved]
    exact built.composeName_eq_ok_iff distinct resolved
  · rintro error (failed | failed)
    · exact built.refuses_of_scopedBase failed
    · rcases refuses_of_composeName failed with refused | failed
      · exact refused
      · rw [scopedBase_of_resolve resolved] at failed
        exact built.refuses_of_scopedBase failed

/-! ### An example -/

/-- The entity of accounts. -/
def account : Entity where
  name := "Account"
  objectClasses := ["account", "top"]
  attributes := EntityDescriptor.account.properties.map PropertyDescriptor.resolve
  base := .root

theorem built_account : account.Built :=
  ⟨EntityDescriptor.account, ⟨by decide, by decide⟩,
    resolve_eq_ok_iff.2 ⟨isConsistent_account, .root, by decide +kernel, rfl⟩⟩

theorem nameComponents_account :
    account.nameComponents =
      [PropertyDescriptor.resolve
        { name := "unit", attributeName := some "2.5.4.11;x-unit", componentIndex := some 0 },
      PropertyDescriptor.resolve { name := "uid", componentIndex := some 1 }] := by
  simp [nameComponents, account, EntityDescriptor.account, PropertyDescriptor.resolve,
    List.mergeSort, List.MergeSort.Internal.splitInTwo, componentBefore]

theorem composed_exactly_account :
    account.scopedBase [("uid", .int 7), ("unit", .text "a,b")] (some (.plain "dc=com")) =
        .ok ⟨["uid=7", "2.5.4.11;x-unit=a\\,b", "dc=com"]⟩ ∧
      account.composeName [("uid", .int 7), ("unit", .text "a,b")] (some (.plain "dc=com")) =
        .ok ⟨["uid=7", "2.5.4.11;x-unit=a\\,b", "dc=com"]⟩ := by
  have resolved : (SearchBase.plain "dc=com").resolve = .ok ⟨["dc=com"]⟩ := by decide +kernel
  obtain ⟨-, reaches, -, composes, -⟩ :=
    @composed_exactly account [("uid", .int 7), ("unit", .text "a,b")] (some (.plain "dc=com")) _
      built_account (by decide) resolved
  have covered : account.Covers [("uid", .int 7), ("unit", .text "a,b")] 2 := by
    constructor
    · rw [nameComponents_account]
      decide
    · rw [nameComponents_account]
      decide
    · decide +kernel
  have reached := (reaches ⟨["uid=7", "2.5.4.11;x-unit=a\\,b", "dc=com"]⟩).2 ⟨2, covered, by
    rw [nameComponents_account]
    decide +kernel⟩
  refine ⟨reached, (composes _).2 ⟨?_, ?_, reached⟩⟩
  · rw [nameComponents_account]
    decide
  · rw [nameComponents_account]
    exact covered

/-- A member of an enumeration of texts that is the empty text. -/
def noUnit : Value :=
  .member (.ofMember "Unit" "NONE" (.text "")) (.text "") (.text "")

/-- The text that a member is counts, not what it reads as: a member that is an empty text is
refused. -/
theorem composed_astray :
    account.Built ∧
      ([("unit", noUnit)].map (·.1)).Perm ((account.nameComponents.take 1).map (·.property)) ∧
      noUnit.isNull = false ∧ noUnit.reading = "Unit.NONE" ∧
      account.scopedBase [("unit", noUnit)] none = .error (.emptyPart "unit") := by
  refine ⟨built_account, ?_⟩
  rw [scopedBase, nameComponents_account]
  decide +kernel

end DirectoryQuery.Entity
