/-
Module: DirectoryQuery.Proofs.Entity.Addressing
Purpose: One value, two ways to an entry: below a base by its name, and by the filter that asks for
  the value.  A directory that reads both finds the same text in them, but for truth values, a lone
  space, and members of enumerations whose own text is not the one that their value stands for.
Main exports:
  Value.IsNaming, Value.HasOneText, shownValue_eq_content_iff, Entity.exists_equality_of_filterFor,
  Entity.addressed_alike_iff
-/
import DirectoryQuery.Proofs.Entity.Coverage
import DirectoryQuery.Proofs.Filter.Assertion
import DirectoryQuery.Proofs.Filter.Meaning
import DirectoryQuery.Proofs.Name.Notation
import DirectoryQuery.Proofs.Predicate.Filling

namespace DirectoryQuery

open DistinguishedName

/-! ### Texts of numbers -/

theorem Numeric.space_notMem_digitsOf (n : Nat) : ' ' ∉ digitsOf n := by
  intro listed
  exact absurd (Nat.isDigit_of_mem_toDigits (by decide) (by decide) listed) (by decide)

theorem Numeric.Decimal.space_notMem_withPlaces {digits : List Char} (places : Nat)
    (without : ' ' ∉ digits) : ' ' ∉ withPlaces digits places := by
  unfold withPlaces
  split
  · exact without
  · have padded : ' ' ∉ List.replicate (places + 1 - digits.length) '0' ++ digits := by
      simp [without]
    simp only [List.mem_append, List.mem_cons, not_or]
    refine ⟨?_, by decide, ?_⟩
    · exact fun listed => padded (List.mem_of_mem_take listed)
    · exact fun listed => padded (List.mem_of_mem_drop listed)

/-- No numeral holds a space. -/
theorem Numeric.Decimal.space_notMem_numeralText (numeral : Numeral) :
    ' ' ∉ numeralText numeral := by
  have digits := space_notMem_digitsOf numeral.coefficient
  have sign : ' ' ∉ (if numeral.negative = true then ['-'] else []) := by
    split <;> decide
  simp only [numeralText]
  split
  · rw [List.mem_append, not_or]
    exact ⟨sign, space_notMem_withPlaces _ digits⟩
  · simp only [List.mem_append, List.mem_cons, not_or]
    refine ⟨⟨sign, space_notMem_withPlaces _ digits⟩, by decide, ?_, space_notMem_digitsOf _⟩
    split <;> decide

theorem Numeric.Decimal.text_ne_space {number : Decimal} (finite : number.isFinite = true) :
    number.text ≠ " " := by
  cases number with
  | finite numeral =>
      intro same
      apply space_notMem_numeralText numeral
      have letters := congrArg String.toList same
      rw [text, String.toList_ofList] at letters
      rw [letters]
      exact List.mem_singleton.2 rfl
  | infinite => cases finite
  | notANumber => cases finite

theorem toString_int_ne_space (number : Int) : toString number ≠ " " := by
  intro same
  have letters := congrArg String.toList same
  cases number with
  | ofNat n =>
      have digits : (toString (Int.ofNat n)).toList = Numeric.digitsOf n := Nat.toList_repr
      apply Numeric.space_notMem_digitsOf n
      rw [← digits, letters]
      exact List.mem_singleton.2 rfl
  | negSucc n =>
      have signed : (toString (Int.negSucc n)).toList = '-' :: Nat.toDigits 10 (n + 1) := by
        rw [← Nat.toList_repr]
        simp [toString, Int.repr]
      rw [signed] at letters
      cases letters

namespace Value

/-! ### Values in names and in filters -/

/-- The values that name components have: texts, truth values, numbers, names, and members of
enumerations over these. -/
inductive IsNaming : Value → Prop where
  | text (value : String) : IsNaming (.text value)
  | bool (value : Bool) : IsNaming (.bool value)
  | int (value : Int) : IsNaming (.int value)
  | decimal (value : Numeric.Decimal) : IsNaming (.decimal value)
  | name (value : DistinguishedName) : IsNaming (.name value)
  | member (appearance : Appearance) (kind : MemberKind) {value : Value} (inner : IsNaming value) :
      IsNaming (.member appearance kind value)

/-- A value has the same text in a name and in a filter: it is a text and not a lone space, it is a
number, or it is a name that is not written as a lone space.  A member of an enumeration gives its own
text to a name, the one that it is or else the one that it reads as; its value is what stands in a
filter, and may be that text.  A lone space in a name is read as a backslash. -/
inductive HasOneText : Value → Prop where
  | text {text : String} (other : text ≠ " ") : HasOneText (.text text)
  | int (value : Int) : HasOneText (.int value)
  | decimal (value : Numeric.Decimal) : HasOneText (.decimal value)
  | name {value : DistinguishedName} (other : value.text ≠ " ") : HasOneText (.name value)
  | member {appearance : Appearance} {kind : MemberKind} {value : Value} {characters : List Char}
      (stands : value.assertion = .ok (.text characters))
      (same : (member appearance kind value).rdnText.toList = characters)
      (other : (member appearance kind value).rdnText ≠ " ") :
      HasOneText (.member appearance kind value)
  | space {appearance : Appearance} {kind : MemberKind} {value : Value}
      (reads : (member appearance kind value).rdnText = " ")
      (stands : value.assertion = .ok (.text ['\\'])) :
      HasOneText (.member appearance kind value)

theorem IsNaming.parameter?_eq_none {value : Value} (naming : value.IsNaming) :
    value.parameter? = none := by
  cases naming <;> rfl

/-- The values that name components have stand for texts in filters. -/
theorem IsNaming.exists_text {value : Value} (naming : value.IsNaming) {assertion : Assertion}
    (found : value.assertion = .ok assertion) : ∃ characters, assertion = .text characters := by
  induction naming with
  | text value =>
      cases found
      exact ⟨_, rfl⟩
  | bool value =>
      cases found
      exact ⟨_, rfl⟩
  | int value =>
      rw [Value.assertion] at found
      split at found
      · cases found
      · cases found
        exact ⟨_, rfl⟩
  | decimal value =>
      rw [Value.assertion] at found
      split at found
      · cases found
        exact ⟨_, rfl⟩
      · cases found
  | name value =>
      cases found
      exact ⟨_, rfl⟩
  | member appearance kind inner ih => exact ih found

end Value

theorem shownValue_space : shownValue " " = utf8 ['\\'] := by decide

theorem shownValue_eq_utf8_iff {text : String} : shownValue text = utf8 text.toList ↔ text ≠ " " := by
  unfold shownValue
  split
  · next space =>
      subst space
      exact iff_of_false (by decide) (not_not_intro rfl)
  · next other => exact iff_of_true rfl other

/-- A directory reads one text in a name and in a filter just if the value has one text. -/
theorem shownValue_eq_content_iff {value : Value} (naming : value.IsNaming) {assertion : Assertion}
    (found : value.assertion = .ok assertion) :
    shownValue value.rdnText = assertion.content ↔ value.HasOneText := by
  cases naming with
  | text text =>
      cases found
      change shownValue text = utf8 text.toList ↔ _
      rw [shownValue_eq_utf8_iff]
      constructor
      · exact .text
      · rintro ⟨other⟩
        exact other
  | bool truth =>
      cases found
      apply iff_of_false
      · cases truth <;> decide
      · rintro ⟨⟩
  | int number =>
      rw [Value.assertion] at found
      split at found
      · cases found
      · cases found
        exact iff_of_true (shownValue_eq_utf8_iff.2 (toString_int_ne_space number)) (.int number)
  | decimal number =>
      rw [Value.assertion] at found
      split at found
      · next finite =>
          cases found
          exact iff_of_true (shownValue_eq_utf8_iff.2 (Numeric.Decimal.text_ne_space finite))
            (.decimal number)
      · cases found
  | name entry =>
      cases found
      change shownValue entry.text = utf8 entry.text.toList ↔ _
      rw [shownValue_eq_utf8_iff]
      constructor
      · exact .name
      · intro one
        cases one with
        | name other => exact other
  | @member appearance kind inner naming =>
      obtain ⟨characters, rfl⟩ := naming.exists_text found
      rw [Assertion.content]
      by_cases space : (Value.member appearance kind inner).rdnText = " "
      · rw [space, shownValue_space, utf8_injective.eq_iff]
        constructor
        · rintro rfl
          exact .space space found
        · intro one
          cases one with
          | member stands same other => exact absurd space other
          | space reads stands =>
              cases found.symm.trans stands
              rfl
      · rw [shownValue_eq_utf8_iff.2 space, utf8_injective.eq_iff]
        constructor
        · intro same
          exact .member found same space
        · intro one
          cases one with
          | member stands same other =>
              cases found.symm.trans stands
              exact same
          | space reads stands => exact absurd reads space

namespace Entity

variable {entity : Entity} {component : Attribute} {value : Value} {given : Option SearchBase}
  {name : DistinguishedName} {filter : Filter}

/-! ### Names of one component -/

/-- A place below the base by a value of the first name component has one relative name more than the
base. -/
theorem rdns_of_scopedBase (built : entity.Built)
    (first : entity.nameComponents.head? = some component)
    (placed : entity.scopedBase [(component.property, value)] given = .ok name) :
    ∃ base, (given.getD (.name entity.base)).resolve = .ok base ∧
      name.rdns = rdn component.attributeName value.rdnText :: base.rdns := by
  cases resolved : (given.getD (.name entity.base)).resolve with
  | error problem =>
      rw [scopedBase, resolved] at placed
      cases placed
  | ok base =>
      refine ⟨base, rfl, ?_⟩
      rw [scopedBase_of_resolve resolved] at placed
      have lead := built.leadTo_of_scopedBase (by simp) placed
      obtain ⟨others, components⟩ := List.head?_eq_some_iff.1 first
      have text : componentRdn [(component.property, value)] component =
          rdn component.attributeName value.rdnText := by
        simp [componentRdn, componentText]
      rw [lead.rdns, components]
      simp [text]

/-! ### Filters of one comparison -/

/-- The test of a property that may stand in a filter for equality with a value. -/
theorem eq_equality_of_comparisonFilter (built : entity.Built) (listed : component ∈ entity.attributes)
    {test : Filter}
    (made : Predicate.comparisonFilter entity (.plain component.property) .equals value = .ok test) :
    ∃ assertion, value.assertion = .ok assertion ∧
      test = .equality component.attributeName assertion := by
  unfold Predicate.comparisonFilter at made
  split at made
  · cases made
  · next found known =>
      have looked := (Predicate.filterableAttribute_eq_ok_iff.1 known).1
      have own : entity.get? component.property = some component :=
        built.get?_eq_some_iff.2 ⟨listed, rfl⟩
      obtain rfl : found = component := Option.some.inj (looked.symm.trans own)
      dsimp only at made
      split at made
      · cases made
      · obtain ⟨assertion, stands, same⟩ := Predicate.assertion_of_map made
        exact ⟨assertion, stands, same.symm⟩

/-- The filter for a comparison with a value asks for the octets of the value. -/
theorem exists_equality_of_filterFor (built : entity.Built) (listed : component ∈ entity.attributes)
    (plain : value.parameter? = none)
    (compiled : entity.filterFor
      (some (.comparison (.plain component.property) .equals value)) [] [] = .ok filter) :
    ∃ assertion, value.assertion = .ok assertion ∧
      DirectoryFilter.ofText? filter.text =
        some (.composite .conjunction
          ((entity.objectClasses.map fun name => .equality "objectclass" (utf8 name.toList)) ++
            [.equality component.attributeName assertion.content])) := by
  have closed : (Predicate.comparison (.plain component.property) .equals value).parameters = [] :=
    Predicate.parameters_comparison plain
  rw [filterFor, (Predicate.bind_nil_eq_ok_iff closed).2 ⟨rfl, rfl⟩] at compiled
  dsimp only at compiled
  split at compiled
  · cases compiled
  · next made all =>
      cases compiled
      obtain ⟨test, others, one, none, rfl⟩ := Predicate.filters_cons_eq_ok all
      cases none
      obtain ⟨assertion, stands, rfl⟩ := eq_equality_of_comparisonFilter built listed one
      refine ⟨assertion, stands, ?_⟩
      have name := isPlainName_of_isAttributeName (built.isAttributeName listed)
      have asserts := (assertsEach_classTests entity).append
        (.cons (Filter.asserts_equality name assertion) .nil)
      obtain ⟨readable, understood⟩ := asserts.composite .conjunction (by simp)
      rw [DirectoryFilter.ofText?_text readable, understood]
      rfl

/-! ### The entry of a name and the entries of a filter -/

/-- A value of the first name component leads to one more relative name, and the comparison with it to
one more test.  A directory reads a text for the attribute of the component in both, and it is one
text just if the value has one text. -/
theorem addressed_alike_iff (built : entity.Built)
    (first : entity.nameComponents.head? = some component) (naming : value.IsNaming)
    (placed : entity.scopedBase [(component.property, value)] given = .ok name)
    (compiled : entity.filterFor
      (some (.comparison (.plain component.property) .equals value)) [] [] = .ok filter) :
    ∃ base part shown sought,
      (given.getD (.name entity.base)).resolve = .ok base ∧ name.rdns = part :: base.rdns ∧
      readRdn? part.toList = some (component.attributeName, shown) ∧
      DirectoryFilter.ofText? filter.text =
        some (.composite .conjunction
          ((entity.objectClasses.map fun name => .equality "objectclass" (utf8 name.toList)) ++
            [.equality component.attributeName sought])) ∧
      (shown = sought ↔ value.HasOneText) := by
  have listed : component ∈ entity.nameComponents := List.mem_of_mem_head? first
  obtain ⟨base, resolved, rdns⟩ := rdns_of_scopedBase built first placed
  obtain ⟨assertion, stands, understood⟩ := exists_equality_of_filterFor built
    (mem_nameComponents_iff.1 listed).1 naming.parameter?_eq_none compiled
  have plain : '=' ∉ component.attributeName.toList := by
    intro found
    exact (built.plain_attributeName listed _ found).2 (by decide)
  exact ⟨base, _, _, assertion.content, resolved, rdns,
    readRdn?_rdn (built.attributeName_ne_empty listed) plain _, understood,
    shownValue_eq_content_iff naming stands⟩

/-- The filter for the accounts of a unit. -/
def unitFilter (unit : String) : Filter :=
  .composite .conjunction [
    .equality "objectclass" (.text "account".toList), .equality "objectclass" (.text "top".toList),
    .equality "2.5.4.11;x-unit" (.text unit.toList)]

theorem head?_nameComponents_account :
    account.nameComponents.head? = some (PropertyDescriptor.resolve
      { name := "unit", attributeName := some "2.5.4.11;x-unit", componentIndex := some 0 }) := by
  rw [nameComponents_account, List.head?_cons]

theorem filterFor_account {unit : String} (stands : value.assertion = .ok (.text unit.toList))
    (plain : value.parameter? = none) :
    account.filterFor (some (.comparison (.plain "unit") .equals value)) [] [] =
      .ok (unitFilter unit) := by
  have closed : (Predicate.comparison (.plain "unit") .equals value).parameters = [] :=
    Predicate.parameters_comparison plain
  have known : account.get? "unit" = some (PropertyDescriptor.resolve
      { name := "unit", attributeName := some "2.5.4.11;x-unit", componentIndex := some 0 }) := by
    decide +kernel
  have test : (Predicate.comparison (.plain "unit") .equals value).filter account =
      .ok (.equality "2.5.4.11;x-unit" (.text unit.toList)) := by
    have usable : Predicate.filterableAttribute account (.plain "unit") = .ok _ :=
      Predicate.filterableAttribute_eq_ok_iff.2 ⟨known, rfl⟩
    rw [Predicate.filter, Predicate.comparisonFilter, usable]
    dsimp only
    rw [plain, Predicate.valueTest, stands]
    rfl
  rw [filterFor, (Predicate.bind_nil_eq_ok_iff closed).2 ⟨rfl, rfl⟩]
  dsimp only
  rw [show (Predicate.comparison (.plain "unit") .equals value).conjuncts = [_] from rfl,
    Predicate.filters, test]
  rfl

/-- A text with a character of either notation at each end. -/
theorem addressed_alike_account :
    account.scopedBase [("unit", .text "#(a, ")] none =
        .ok ⟨["2.5.4.11;x-unit=\\#(a\\,\\ "]⟩ ∧
      account.filterFor (some (.comparison (.plain "unit") .equals (.text "#(a, "))) [] [] =
        .ok (unitFilter "#(a, ") ∧
      ∃ base part shown sought,
        (SearchBase.name account.base).resolve = .ok base ∧
        ["2.5.4.11;x-unit=\\#(a\\,\\ "] = part :: base.rdns ∧
        readRdn? part.toList = some ("2.5.4.11;x-unit", shown) ∧
        DirectoryFilter.ofText? (unitFilter "#(a, ").text =
          some (.composite .conjunction
            ((account.objectClasses.map fun name => .equality "objectclass" (utf8 name.toList)) ++
              [.equality "2.5.4.11;x-unit" sought])) ∧
        (shown = sought ↔ (Value.text "#(a, ").HasOneText) := by
  have placed : account.scopedBase [("unit", .text "#(a, ")] none =
      .ok ⟨["2.5.4.11;x-unit=\\#(a\\,\\ "]⟩ := by
    rw [scopedBase, nameComponents_account]
    decide +kernel
  have compiled : account.filterFor
      (some (.comparison (.plain "unit") .equals (.text "#(a, "))) [] [] =
        .ok (unitFilter "#(a, ") := filterFor_account rfl rfl
  exact ⟨placed, compiled, addressed_alike_iff built_account head?_nameComponents_account
    (.text _) placed compiled⟩

/-- A unit as a member of an enumeration of nothing but values. -/
def unitA : Value := .member (.ofMember "Unit" "A" (.text "a")) .plain (.text "a")

/-- A truth value, a member that is no text and a lone space have one text in a name and another in a
filter. -/
theorem addressed_apart_account :
    account.Built ∧
      (account.scopedBase [("unit", .bool true)] none = .ok ⟨["2.5.4.11;x-unit=True"]⟩ ∧
        account.filterFor (some (.comparison (.plain "unit") .equals (.bool true))) [] [] =
          .ok (unitFilter "TRUE") ∧
        readRdn? "2.5.4.11;x-unit=True".toList = some ("2.5.4.11;x-unit", utf8 "True".toList)) ∧
      (account.scopedBase [("unit", unitA)] none = .ok ⟨["2.5.4.11;x-unit=Unit.A"]⟩ ∧
        account.filterFor (some (.comparison (.plain "unit") .equals unitA)) [] [] =
          .ok (unitFilter "a") ∧
        readRdn? "2.5.4.11;x-unit=Unit.A".toList =
          some ("2.5.4.11;x-unit", utf8 "Unit.A".toList)) ∧
      (account.scopedBase [("unit", .text " ")] none = .ok ⟨["2.5.4.11;x-unit=\\\\ "]⟩ ∧
        account.filterFor (some (.comparison (.plain "unit") .equals (.text " "))) [] [] =
          .ok (unitFilter " ") ∧
        readRdn? "2.5.4.11;x-unit=\\\\ ".toList =
          some ("2.5.4.11;x-unit", utf8 "\\".toList)) := by
  refine ⟨built_account, ⟨?_, filterFor_account rfl rfl, by decide⟩,
    ⟨?_, filterFor_account rfl rfl, by decide⟩, ?_, filterFor_account rfl rfl, by decide⟩
  all_goals
    rw [scopedBase, nameComponents_account]
    decide +kernel

end Entity

end DirectoryQuery
