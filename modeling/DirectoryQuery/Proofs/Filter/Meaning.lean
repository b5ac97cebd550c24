/-
Module: DirectoryQuery.Proofs.Filter.Meaning
Purpose: What a directory must be asked for so that a predicate over an entity is decided, said as a
  relation apart from the compiler, and the main statement about compiled filters: a directory that
  reads the text of one understands exactly this, whatever the values are.
Main exports:
  Value.StandsFor, Operator.Asks, Predicate.Means, Predicate.MeansAtRoot, Means.unique,
  means_of_filter, ofText?_filterFor
-/
import DirectoryQuery.Filter.Compilation
import DirectoryQuery.Proofs.Entity.AttributeName
import DirectoryQuery.Proofs.Entity.Built
import DirectoryQuery.Proofs.Filter.Notation
import DirectoryQuery.Proofs.Filter.Pattern
import DirectoryQuery.Proofs.Result

namespace DirectoryQuery

open Text

/-! ### The meaning of values, operators and predicates -/

/-- The octets that a value stands for in a filter.  Null, placeholders, numbers with fractions and
collections stand for none. -/
inductive Value.StandsFor : Value → List UInt8 → Prop where
  | text (characters : String) : StandsFor (.text characters) (utf8 characters.toList)
  | bytes (octets : List UInt8) : StandsFor (.bytes octets) octets
  | byteArray (octets : List UInt8) : StandsFor (.byteArray octets) octets
  | yes : StandsFor (.bool true) (utf8 "TRUE".toList)
  | no : StandsFor (.bool false) (utf8 "FALSE".toList)
  | int (number : Int) : StandsFor (.int number) (utf8 (toString number).toList)
  | decimal {number : Numeric.Decimal} (finite : number.isFinite = true) :
      StandsFor (.decimal number) (utf8 number.text.toList)
  | moment {time universal : Calendar.Moment} (utc : time.utc? = some universal) :
      StandsFor (.moment time) (utf8 universal.generalizedTime)
  | name (name : DistinguishedName) : StandsFor (.name name) (utf8 name.text.toList)
  | member (appearance : Appearance) (kind : MemberKind) {value : Value} {octets : List UInt8}
      (stands : StandsFor value octets) : StandsFor (.member appearance kind value) octets

/-- The test of an attribute that an operator and a value ask for.  A text asks `like` for its
pieces; any other value asks it for equality. -/
inductive Operator.Asks (attributeName : String) : Operator → Value → DirectoryFilter → Prop where
  | equals {value : Value} {octets : List UInt8} (stands : value.StandsFor octets) :
      Asks attributeName .equals value (.equality attributeName octets)
  | atMost {value : Value} {octets : List UInt8} (stands : value.StandsFor octets) :
      Asks attributeName .atMost value (.atMost attributeName octets)
  | atLeast {value : Value} {octets : List UInt8} (stands : value.StandsFor octets) :
      Asks attributeName .atLeast value (.atLeast attributeName octets)
  | present (value : Value) : Asks attributeName .present value (.present attributeName)
  | absent (value : Value) :
      Asks attributeName .absent value (.negation (.present attributeName))
  | startingWith {value : Value} {octets : List UInt8} (stands : value.StandsFor octets)
      (nonempty : octets ≠ []) :
      Asks attributeName .startingWith value (.substrings attributeName octets [] [])
  | endingWith {value : Value} {octets : List UInt8} (stands : value.StandsFor octets)
      (nonempty : octets ≠ []) :
      Asks attributeName .endingWith value (.substrings attributeName [] [] octets)
  | containing {value : Value} {octets : List UInt8} (stands : value.StandsFor octets)
      (nonempty : octets ≠ []) :
      Asks attributeName .containing value (.substrings attributeName [] [octets] [])
  /-- A pattern without wildcards asks for equality. -/
  | likeText {value : Value} {pattern : String} (text : value.asText? = some pattern)
      (plain : wildcard ∉ pattern.toList) :
      Asks attributeName .like value (.equality attributeName (utf8 pattern.toList))
  /-- A pattern of wildcards only asks for presence. -/
  | likeAnything {value : Value} {pattern : String} (text : value.asText? = some pattern)
      (more : Nat) (wildcards : pattern.toList = List.replicate (more + 1) wildcard) :
      Asks attributeName .like value (.present attributeName)
  | likePieces {value : Value} {pattern : String} {first last : List Char}
      {inner : List (List Char)} (text : value.asText? = some pattern)
      (pieces : PatternPieces pattern.toList first (inner ++ [last]))
      (something : ¬(first = [] ∧ inner = [] ∧ last = [])) :
      Asks attributeName .like value
        (.substrings attributeName (utf8 first) (inner.map utf8) (utf8 last))
  | likeOther {value : Value} {octets : List UInt8} (noText : value.asText? = none)
      (stands : value.StandsFor octets) (nonempty : octets ≠ []) :
      Asks attributeName .like value (.equality attributeName octets)

namespace Predicate

mutual

/-- What a predicate over an entity means to a directory.  A comparison is about the attribute of
its own property, which may be queried; the connectives keep their operands and the order of them.
-/
inductive Means (entity : Entity) : Predicate → DirectoryFilter → Prop where
  | comparison {property : Label} {operator : Operator} {value : Value} {test : DirectoryFilter}
      {found : Attribute} (listed : found ∈ entity.attributes)
      (named : found.property = property.text) (queryable : found.isQueryable = true)
      (asks : operator.Asks found.attributeName value test) :
      Means entity (.comparison property operator value) test
  | negation {operand : Predicate} {test : DirectoryFilter} (means : Means entity operand test) :
      Means entity (.negation operand) (.negation test)
  | composite {kind : Connective} {first : Predicate} {others : List Predicate}
      {branches : List DirectoryFilter} (each : MeansEach entity (first :: others) branches) :
      Means entity (.composite kind first others) (.composite kind branches)

/-- What predicates mean, one by one. -/
inductive MeansEach (entity : Entity) : List Predicate → List DirectoryFilter → Prop where
  | nil : MeansEach entity [] []
  | cons {predicate : Predicate} {test : DirectoryFilter} {predicates : List Predicate}
      {tests : List DirectoryFilter} (head : Means entity predicate test)
      (tail : MeansEach entity predicates tests) :
      MeansEach entity (predicate :: predicates) (test :: tests)

end

/-- The branches that a whole predicate gives to the filter of its entity: those of its operands if
it is a conjunction, else a single one. -/
inductive MeansAtRoot (entity : Entity) : Predicate → List DirectoryFilter → Prop where
  | spliced {first : Predicate} {others : List Predicate} {branches : List DirectoryFilter}
      (each : MeansEach entity (first :: others) branches) :
      MeansAtRoot entity (.composite .conjunction first others) branches
  | single {predicate : Predicate} {branch : DirectoryFilter}
      (other : ∀ first others, predicate ≠ .composite .conjunction first others)
      (means : Means entity predicate branch) : MeansAtRoot entity predicate [branch]

end Predicate

/-! ### Values -/

namespace Value

/-- The assertion value of a value has the octets that the value stands for. -/
theorem standsFor_of_assertion : ∀ {value : Value} {assertion : Assertion},
    value.assertion = .ok assertion → value.StandsFor assertion.content
  | .bytes octets, _, found => by
      cases found
      exact .bytes octets
  | .byteArray octets, _, found => by
      cases found
      exact .byteArray octets
  | .member appearance kind inner, _, found =>
      .member appearance kind (standsFor_of_assertion found)
  | .bool truth, _, found => by
      cases found
      cases truth
      · exact .no
      · exact .yes
  | .int number, _, found => by
      rw [assertion] at found
      split at found
      · cases found
      · cases found
        exact .int number
  | .decimal number, _, found => by
      rw [assertion] at found
      split at found
      · next finite =>
          cases found
          exact .decimal finite
      · cases found
  | .moment time, _, found => by
      rw [assertion] at found
      split at found
      · next universal utc =>
          cases found
          exact .moment utc
      · cases found
  | .name entry, _, found => by
      cases found
      exact .name entry
  | .text characters, _, found => by
      cases found
      exact .text characters
  | .null, _, found => by cases found
  | .float _, _, found => by cases found
  | .list _, _, found => by cases found
  | .tuple _, _, found => by cases found
  | .record _, _, found => by cases found
  | .date _, _, found => by cases found
  | .parameter _, _, found => by cases found
  | .foreign _, _, found => by cases found

/-- A value stands for no more than one sequence of octets. -/
theorem StandsFor.unique {value : Value} {octets others : List UInt8}
    (left : value.StandsFor octets) (right : value.StandsFor others) : octets = others := by
  induction left with
  | moment utc =>
      cases right with
      | moment utc' =>
          rw [utc] at utc'
          injection utc' with same
          rw [same]
  | member appearance kind stands ih =>
      cases right with
      | member _ _ stands' => exact ih stands'
  | _ =>
      cases right
      rfl

end Value

/-- Only a value without content has an empty written form. -/
theorem Assertion.content_ne_nil {assertion : Assertion} (written : assertion.written ≠ []) :
    assertion.content ≠ [] := by
  intro empty
  apply written
  cases assertion with
  | text characters =>
      rw [content, utf8_eq_nil_iff] at empty
      rw [empty]
      rfl
  | octets content =>
      rw [Assertion.content] at empty
      rw [empty]
      rfl

/-- The assertion value for a part of a text stands for octets, and not for none of them. -/
theorem Value.standsFor_of_substringAssertion {value : Value} {assertion : Assertion}
    (found : value.substringAssertion = .ok assertion) :
    value.StandsFor assertion.content ∧ assertion.content ≠ [] := by
  unfold substringAssertion at found
  split at found
  · cases found
  · split at found
    · cases found
    · next whole =>
        split at found
        · cases found
        · next written =>
            cases found
            exact ⟨standsFor_of_assertion whole, Assertion.content_ne_nil written⟩

/-! ### Tests -/

namespace Filter

/-- A filter that can be read and that a directory understands as the given one. -/
structure Asserts (filter : Filter) (test : DirectoryFilter) : Prop where
  readable : filter.Readable
  understood : filter.understood = test

theorem Asserts.negation {filter : Filter} {test : DirectoryFilter}
    (asserts : filter.Asserts test) : (Filter.negation filter).Asserts (.negation test) := by
  refine ⟨.negation asserts.readable, ?_⟩
  rw [Filter.understood, asserts.understood]

/-- Filters that can be read and that a directory understands as the given ones, one by one. -/
structure AssertsEach (filters : List Filter) (tests : List DirectoryFilter) : Prop where
  readable : ∀ filter ∈ filters, filter.Readable
  understood : filters.map Filter.understood = tests

namespace AssertsEach

variable {filters : List Filter} {tests : List DirectoryFilter}

theorem nil : AssertsEach [] [] := ⟨by simp, rfl⟩

theorem cons {filter : Filter} {test : DirectoryFilter} (head : filter.Asserts test)
    (tail : AssertsEach filters tests) : AssertsEach (filter :: filters) (test :: tests) := by
  constructor
  · intro other found
    rcases List.mem_cons.1 found with rfl | later
    · exact head.readable
    · exact tail.readable other later
  · rw [List.map_cons, head.understood, tail.understood]

theorem append {front : List Filter} {frontTests : List DirectoryFilter}
    (before : AssertsEach front frontTests) (after : AssertsEach filters tests) :
    AssertsEach (front ++ filters) (frontTests ++ tests) := by
  constructor
  · intro other found
    rcases List.mem_append.1 found with earlier | later
    · exact before.readable other earlier
    · exact after.readable other later
  · rw [List.map_append, before.understood, after.understood]

theorem composite (kind : Connective) (nonempty : filters ≠ [])
    (each : AssertsEach filters tests) :
    (Filter.composite kind filters).Asserts (.composite kind tests) := by
  refine ⟨.composite nonempty each.readable, ?_⟩
  rw [Filter.understood, Filter.understoodAll_eq_map, each.understood]

end AssertsEach

variable {attributeName : String} (plain : IsPlainName attributeName)

include plain

theorem asserts_equality (value : Assertion) :
    (equality attributeName value).Asserts (.equality attributeName value.content) :=
  ⟨.matching plain (by simp), rfl⟩

theorem asserts_atMost (value : Assertion) :
    (Filter.atMost attributeName value).Asserts (.atMost attributeName value.content) :=
  ⟨.atMost plain, rfl⟩

theorem asserts_atLeast (value : Assertion) :
    (Filter.atLeast attributeName value).Asserts (.atLeast attributeName value.content) :=
  ⟨.atLeast plain, rfl⟩

theorem asserts_present :
    (present attributeName).Asserts (.present attributeName) :=
  ⟨.matching plain (by simp), rfl⟩

theorem asserts_startingWith {value : Assertion} (nonempty : value.content ≠ []) :
    (startingWith attributeName value).Asserts
      (.substrings attributeName value.content [] []) :=
  ⟨.matching plain (by simp),
    @DirectoryFilter.ofPieces_concat attributeName value.content [] [] fun none =>
      nonempty none.1⟩

theorem asserts_endingWith {value : Assertion} (nonempty : value.content ≠ []) :
    (endingWith attributeName value).Asserts
      (.substrings attributeName [] [] value.content) :=
  ⟨.matching plain (by simp),
    @DirectoryFilter.ofPieces_concat attributeName [] value.content [] fun none =>
      nonempty none.2.2⟩

theorem asserts_containing {value : Assertion} (nonempty : value.content ≠ []) :
    (containing attributeName value).Asserts
      (.substrings attributeName [] [value.content] []) :=
  ⟨.matching plain (by simpa using nonempty),
    @DirectoryFilter.ofPieces_concat attributeName [] [] [value.content] (by simp)⟩

omit plain in
/-- A pattern asks for its pieces. -/
theorem asks_ofPieces {value : Value} {pattern : String} (text : value.asText? = some pattern)
    {first : List Char} {others : List (List Char)}
    (pieces : PatternPieces pattern.toList first others) :
    Operator.Asks attributeName .like value
      (.ofPieces attributeName (utf8 first) (others.map utf8)) := by
  rcases List.eq_nil_or_concat' others with rfl | ⟨inner, last, rfl⟩
  · -- Without further pieces there is no wildcard.
    generalize same : pattern.toList = source at pieces
    cases pieces with
    | whole plain =>
        subst same
        exact .likeText text plain
  · by_cases something : first = [] ∧ inner = [] ∧ last = []
    · obtain ⟨rfl, rfl, rfl⟩ := something
      generalize same : pattern.toList = source at pieces
      cases pieces with
      | next plain more following ended =>
          rcases following.of_nil with ⟨rfl, -⟩ | ⟨rest, rfl⟩
          · exact .likeAnything text more (by simpa using same)
          · exact absurd rfl following.of_wildcard.2
    · rw [List.map_append, List.map_singleton, DirectoryFilter.ofPieces_concat]
      · exact .likePieces text pieces something
      · rwa [utf8_eq_nil_iff, List.map_eq_nil_iff, utf8_eq_nil_iff]

/-- The test for a pattern can be read, and it asks for the pieces of the pattern. -/
theorem asserts_like {value : Value} {pattern : String} (text : value.asText? = some pattern) :
    ∃ test, (like attributeName pattern.toList).Asserts test ∧
      Operator.Asks attributeName .like value test := by
  have pieces := patternPieces_splitPattern pattern.toList
  refine ⟨_, ⟨?_, rfl⟩, ?_⟩
  · refine .matching plain ?_
    intro piece found
    rw [← List.map_dropLast] at found
    obtain ⟨characters, listed, rfl⟩ := List.mem_map.1 found
    rw [Assertion.content, Ne, utf8_eq_nil_iff]
    exact pieces.inner_ne_nil characters listed
  · have whole : (like attributeName pattern.toList).understood =
        .ofPieces attributeName (utf8 (splitPattern pattern.toList).1)
          ((splitPattern pattern.toList).2.map utf8) := by
      rw [like, understood, List.map_map]
      rfl
    rw [whole]
    exact asks_ofPieces text pieces

end Filter

/-! ### Comparisons -/

namespace Predicate

theorem assertion_of_map {value : Value} {property : Label} {make : Assertion → Filter}
    {filter : Filter}
    (made : (value.assertion.mapError (FilterError.badValue property)).map make = .ok filter) :
    ∃ assertion, value.assertion = .ok assertion ∧ make assertion = filter := by
  obtain ⟨assertion, found, same⟩ := map_eq_ok_iff.1 made
  exact ⟨assertion, mapError_eq_ok_iff.1 found, same⟩

variable {attributeName : String} (plain : IsPlainName attributeName)

include plain

/-- The test for a part of a text asks for what its operator says. -/
theorem asserts_of_substringTest {property : Label} {operator : Operator} {value : Value}
    {assertion : Assertion} {filter : Filter} (part : value.substringAssertion = .ok assertion)
    (noText : operator = .like → value.asText? = none)
    (made : substringTest attributeName property operator assertion = .ok filter) :
    ∃ test, filter.Asserts test ∧ operator.Asks attributeName value test := by
  obtain ⟨stands, nonempty⟩ := Value.standsFor_of_substringAssertion part
  cases operator with
  | like =>
      cases made
      exact ⟨_, Filter.asserts_equality plain assertion, .likeOther (noText rfl) stands nonempty⟩
  | startingWith =>
      cases made
      exact ⟨_, Filter.asserts_startingWith plain nonempty, .startingWith stands nonempty⟩
  | endingWith =>
      cases made
      exact ⟨_, Filter.asserts_endingWith plain nonempty, .endingWith stands nonempty⟩
  | containing =>
      cases made
      exact ⟨_, Filter.asserts_containing plain nonempty, .containing stands nonempty⟩
  | _ => cases made

/-- The test for a value asks for what its operator says. -/
theorem asserts_of_valueTest {property : Label} {operator : Operator} {value : Value}
    {filter : Filter} (made : valueTest attributeName property operator value = .ok filter) :
    ∃ test, filter.Asserts test ∧ operator.Asks attributeName value test := by
  unfold valueTest at made
  dsimp only at made
  split at made
  · obtain ⟨assertion, found, rfl⟩ := assertion_of_map made
    exact ⟨_, Filter.asserts_equality plain assertion,
      .equals (Value.standsFor_of_assertion found)⟩
  · obtain ⟨assertion, found, rfl⟩ := assertion_of_map made
    exact ⟨_, Filter.asserts_atMost plain assertion,
      .atMost (Value.standsFor_of_assertion found)⟩
  · obtain ⟨assertion, found, rfl⟩ := assertion_of_map made
    exact ⟨_, Filter.asserts_atLeast plain assertion,
      .atLeast (Value.standsFor_of_assertion found)⟩
  · next pattern text =>
      cases made
      exact Filter.asserts_like plain text
  · next notLike =>
      split at made
      · cases made
      · next assertion part =>
          refine asserts_of_substringTest plain part ?_ made
          rintro rfl
          cases text : value.asText? with
          | none => rfl
          | some pattern => exact (notLike pattern rfl text).elim

end Predicate

/-! ### Attribute names -/

/-- The characters that attribute names are made of have no meaning in the notation of filters. -/
theorem notMem_structural {c : Char}
    (ordinary : isKeywordChar c = true ∨ isDecimalDigit c = true ∨ c = '.' ∨ c = ';') :
    c ∉ DirectoryFilter.structural := by
  intro found
  simp only [DirectoryFilter.structural, List.mem_cons, List.not_mem_nil, or_false] at found
  rcases found with rfl | rfl | rfl | rfl | rfl | rfl | rfl | rfl <;> revert ordinary <;> decide

/-- Attribute names are plain. -/
theorem isPlainName_of_isAttributeName {name : String} (valid : isAttributeName name = true) :
    IsPlainName name := by
  obtain ⟨nonempty, each⟩ := mem_attributeName valid
  exact ⟨nonempty, fun c found => notMem_structural (each c found)⟩

theorem isPlainName_objectClassAttribute : IsPlainName Entity.objectClassAttribute :=
  ⟨by decide, by simp [Entity.objectClassAttribute, DirectoryFilter.structural]⟩

/-! ### Predicates -/

namespace Predicate

variable {entity : Entity}

/-- The test that a comparison stands for is what the comparison means. -/
theorem means_of_comparisonFilter (built : entity.Built) {property : Label} {operator : Operator}
    {value : Value} {filter : Filter} (made : comparisonFilter entity property operator value = .ok filter) :
    ∃ test, filter.Asserts test ∧
      Means entity (.comparison property operator value) test := by
  unfold comparisonFilter at made
  split at made
  · cases made
  · next found known =>
      obtain ⟨looked, queryable⟩ := filterableAttribute_eq_ok_iff.1 known
      obtain ⟨listed, named⟩ := Entity.mem_of_get?_eq_some looked
      have plain := isPlainName_of_isAttributeName (built.isAttributeName listed)
      have comparison {test : DirectoryFilter}
          (asks : operator.Asks found.attributeName value test) :
          Means entity (.comparison property operator value) test :=
        .comparison listed named queryable asks
      split at made
      · cases made
        exact ⟨_, Filter.asserts_present plain, comparison (.present value)⟩
      · cases made
        exact ⟨_, (Filter.asserts_present plain).negation, comparison (.absent value)⟩
      · split at made
        · cases made
        · obtain ⟨test, asserts, asks⟩ := asserts_of_valueTest plain made
          exact ⟨test, asserts, comparison asks⟩

theorem filters_cons_eq_ok {predicate : Predicate} {rest : List Predicate} {made : List Filter}
    (all : filters entity (predicate :: rest) = .ok made) :
    ∃ head tail, predicate.filter entity = .ok head ∧ filters entity rest = .ok tail ∧
      made = head :: tail := by
  rw [filters] at all
  split at all
  · cases all
  · next head first =>
      split at all
      · cases all
      · next tail others =>
          cases all
          exact ⟨head, tail, first, others, rfl⟩

theorem filter_composite_eq_ok {kind : Connective} {first : Predicate} {others : List Predicate}
    {made : Filter} (compiled : (composite kind first others).filter entity = .ok made) :
    ∃ head tail, first.filter entity = .ok head ∧ filters entity others = .ok tail ∧
      made = .composite kind (head :: tail) := by
  rw [filter] at compiled
  split at compiled
  · cases compiled
  · next head one =>
      split at compiled
      · cases compiled
      · next tail more =>
          cases compiled
          exact ⟨head, tail, one, more, rfl⟩

theorem filter_negation_eq_ok {operand : Predicate} {made : Filter}
    (compiled : (negation operand).filter entity = .ok made) :
    ∃ inner, operand.filter entity = .ok inner ∧ made = .negation inner := by
  rw [filter] at compiled
  obtain ⟨inner, inside, same⟩ := map_eq_ok_iff.1 compiled
  exact ⟨inner, inside, same.symm⟩

mutual

/-- The filter that a predicate stands for is what the predicate means. -/
theorem means_of_filter (built : entity.Built) {predicate : Predicate}
    {made : Filter} (compiled : predicate.filter entity = .ok made) :
    ∃ test, made.Asserts test ∧ Means entity predicate test := by
  cases predicate with
  | comparison property operator value => exact means_of_comparisonFilter built compiled
  | negation operand =>
      obtain ⟨inner, inside, rfl⟩ := filter_negation_eq_ok compiled
      obtain ⟨test, asserts, means⟩ := means_of_filter built inside
      exact ⟨.negation test, asserts.negation, .negation means⟩
  | composite kind first others =>
      obtain ⟨head, tail, one, more, rfl⟩ := filter_composite_eq_ok compiled
      obtain ⟨test, asserts, means⟩ := means_of_filter built one
      obtain ⟨tests, assertsEach, each⟩ := meansEach_of_filters built more
      exact ⟨.composite kind (test :: tests),
        (Filter.AssertsEach.cons asserts assertsEach).composite kind (List.cons_ne_nil _ _),
        .composite (.cons means each)⟩
  | bare => cases compiled

/-- The filters that predicates stand for are what these mean. -/
theorem meansEach_of_filters (built : entity.Built) {predicates : List Predicate}
    {made : List Filter} (compiled : filters entity predicates = .ok made) :
    ∃ tests, Filter.AssertsEach made tests ∧ MeansEach entity predicates tests := by
  cases predicates with
  | nil =>
      cases compiled
      exact ⟨[], .nil, .nil⟩
  | cons predicate rest =>
      obtain ⟨head, tail, first, others, rfl⟩ := filters_cons_eq_ok compiled
      obtain ⟨test, asserts, means⟩ := means_of_filter built first
      obtain ⟨tests, assertsEach, each⟩ := meansEach_of_filters built others
      exact ⟨test :: tests, .cons asserts assertsEach, .cons means each⟩

end

end Predicate

/-! ### One meaning only -/

/-- What a text asks `like` for is given by the pieces of the text. -/
theorem Operator.Asks.eq_ofPieces {attributeName : String} {value : Value}
    {test : DirectoryFilter} (asks : Operator.Asks attributeName .like value test)
    {pattern : String} (text : value.asText? = some pattern) :
    test = .ofPieces attributeName (utf8 (splitPattern pattern.toList).1)
      ((splitPattern pattern.toList).2.map utf8) := by
  cases asks with
  | likeText text' plain =>
      rw [text] at text'
      injection text' with same
      subst same
      rw [patternPieces_iff.1 (.whole plain)]
      rfl
  | likeAnything text' more wildcards =>
      rw [text] at text'
      injection text' with same
      subst same
      have pieces : PatternPieces (List.replicate (more + 1) wildcard) [] [[]] := by
        have run := @PatternPieces.next [] [] [] [] List.not_mem_nil more
          (.whole List.not_mem_nil) (.inr rfl)
        simpa using run
      rw [wildcards, patternPieces_iff.1 pieces]
      rfl
  | likePieces text' pieces something =>
      rw [text] at text'
      injection text' with same
      subst same
      rw [patternPieces_iff.1 pieces, List.map_append, List.map_singleton,
        DirectoryFilter.ofPieces_concat]
      rwa [utf8_eq_nil_iff, List.map_eq_nil_iff, utf8_eq_nil_iff]
  | likeOther noText stands nonempty =>
      rw [text] at noText
      cases noText

/-- An operator and a value ask for one test only. -/
theorem Operator.Asks.unique {attributeName : String} {operator : Operator} {value : Value}
    {test other : DirectoryFilter} (left : operator.Asks attributeName value test)
    (right : operator.Asks attributeName value other) : test = other := by
  cases left with
  | equals stands =>
      cases right with
      | equals stands' => rw [stands.unique stands']
  | atMost stands =>
      cases right with
      | atMost stands' => rw [stands.unique stands']
  | atLeast stands =>
      cases right with
      | atLeast stands' => rw [stands.unique stands']
  | present =>
      cases right
      rfl
  | absent =>
      cases right
      rfl
  | startingWith stands nonempty =>
      cases right with
      | startingWith stands' nonempty' => rw [stands.unique stands']
  | endingWith stands nonempty =>
      cases right with
      | endingWith stands' nonempty' => rw [stands.unique stands']
  | containing stands nonempty =>
      cases right with
      | containing stands' nonempty' => rw [stands.unique stands']
  | likeText text plain =>
      rw [(Operator.Asks.likeText text plain).eq_ofPieces text, right.eq_ofPieces text]
  | likeAnything text more wildcards =>
      rw [(Operator.Asks.likeAnything text more wildcards).eq_ofPieces text,
        right.eq_ofPieces text]
  | likePieces text pieces something =>
      rw [(Operator.Asks.likePieces text pieces something).eq_ofPieces text,
        right.eq_ofPieces text]
  | likeOther noText stands nonempty =>
      cases right with
      | likeOther noText' stands' nonempty' => rw [stands.unique stands']
      | likeText text => cases noText.symm.trans text
      | likeAnything text => cases noText.symm.trans text
      | likePieces text => cases noText.symm.trans text

namespace Predicate

variable {entity : Entity}

mutual

/-- A predicate over an entity means one thing only. -/
theorem Means.unique (built : entity.Built) {predicate : Predicate}
    {test other : DirectoryFilter} (left : Means entity predicate test)
    (right : Means entity predicate other) : test = other := by
  cases left with
  | comparison listed named queryable asks =>
      cases right with
      | comparison listed' named' queryable' asks' =>
          have known := built.get?_eq_some_iff.2 ⟨listed, named⟩
          rw [built.get?_eq_some_iff.2 ⟨listed', named'⟩] at known
          injection known with same
          subst same
          exact asks.unique asks'
  | negation means =>
      cases right with
      | negation means' => rw [means.unique built means']
  | composite each =>
      cases right with
      | composite each' => rw [each.unique built each']

/-- Predicates over an entity mean one thing each. -/
theorem MeansEach.unique (built : entity.Built) {predicates : List Predicate}
    {tests others : List DirectoryFilter} (left : MeansEach entity predicates tests)
    (right : MeansEach entity predicates others) : tests = others := by
  cases left with
  | nil =>
      cases right
      rfl
  | cons head tail =>
      cases right with
      | cons head' tail' => rw [head.unique built head', tail.unique built tail']

end

/-- A whole predicate gives its entity one list of branches only. -/
theorem MeansAtRoot.unique (built : entity.Built) {predicate : Predicate}
    {branches others : List DirectoryFilter} (left : MeansAtRoot entity predicate branches)
    (right : MeansAtRoot entity predicate others) : branches = others := by
  cases left with
  | spliced each =>
      cases right with
      | spliced each' => exact each.unique built each'
      | single other => exact absurd rfl (other _ _)
  | single other means =>
      cases right with
      | spliced => exact absurd rfl (other _ _)
      | single other' means' => rw [means.unique built means']

end Predicate

/-! ### Compiled filters -/

namespace Entity

variable {entity : Entity}

/-- The tests for the object classes of an entity, as a directory understands them. -/
theorem assertsEach_classTests (entity : Entity) :
    Filter.AssertsEach entity.classTests
      (entity.objectClasses.map fun name =>
        .equality objectClassAttribute (utf8 name.toList)) := by
  rw [classTests]
  induction entity.objectClasses with
  | nil => exact .nil
  | cons name names ih =>
      rw [List.map_cons, List.map_cons]
      exact .cons (Filter.asserts_equality isPlainName_objectClassAttribute (.text name.toList)) ih

/-- The filters of the conjuncts of a predicate are what the predicate gives to its entity. -/
theorem meansAtRoot_of_filters (built : entity.Built) {bound : Predicate} {made : List Filter}
    (compiled : Predicate.filters entity bound.conjuncts = .ok made) :
    ∃ branches, Filter.AssertsEach made branches ∧
      Predicate.MeansAtRoot entity bound branches := by
  have single (other : ∀ first others, bound ≠ .composite .conjunction first others)
      (alone : bound.conjuncts = [bound]) :
      ∃ branches, Filter.AssertsEach made branches ∧
        Predicate.MeansAtRoot entity bound branches := by
    rw [alone] at compiled
    obtain ⟨tests, asserts, each⟩ := Predicate.meansEach_of_filters built compiled
    cases each with
    | cons head tail =>
        cases tail
        exact ⟨_, asserts, .single other head⟩
  cases bound with
  | composite kind first others =>
      cases kind with
      | conjunction =>
          obtain ⟨tests, asserts, each⟩ := Predicate.meansEach_of_filters built compiled
          exact ⟨tests, asserts, .spliced each⟩
      | disjunction => exact single (by simp) rfl
  | _ => exact single (by simp) rfl

/-- A directory that reads the text of a compiled filter finds exactly one filter: the conjunction
of one test for each object class, in their order, and of what the predicate means once arguments
have taken the place of its placeholders.  There is one such meaning only. -/
theorem ofText?_text_filterFor (built : entity.Built) {predicate : Predicate}
    {arguments : List Value} {keywords : List (String × Value)} {filter : Filter}
    (compiled : entity.filterFor (some predicate) arguments keywords = .ok filter) :
    ∃ bound branches, predicate.bind arguments keywords = .ok bound ∧
      Predicate.MeansAtRoot entity bound branches ∧
      (∀ others, Predicate.MeansAtRoot entity bound others → others = branches) ∧
      DirectoryFilter.ofText? filter.text =
        some (.composite .conjunction
          ((entity.objectClasses.map fun name => .equality "objectclass" (utf8 name.toList)) ++
            branches)) := by
  rw [filterFor] at compiled
  split at compiled
  · cases compiled
  · next bound binding =>
      split at compiled
      · cases compiled
      · next made all =>
          cases compiled
          obtain ⟨branches, asserts, means⟩ := meansAtRoot_of_filters built all
          refine ⟨bound, branches, binding, means, fun others also => also.unique built means, ?_⟩
          have nonempty : entity.classTests ++ made ≠ [] := by
            intro none
            rw [List.append_eq_nil_iff, classTests, List.map_eq_nil_iff] at none
            exact built.objectClasses_ne_nil none.1
          have whole := (assertsEach_classTests entity).append asserts
          obtain ⟨readable, understood⟩ := whole.composite .conjunction nonempty
          rw [DirectoryFilter.ofText?_text readable, understood]
          rfl

/-- A predicate with two placeholders, one of them inside a negation. -/
def twoPlaceholders : Predicate :=
  .composite .disjunction
    (.comparison (.plain "lastname") .like (.parameter ⟨0, "lastname"⟩))
    [.negation (.comparison (.plain "phone") .startingWith (.parameter ⟨1, "phone"⟩)),
      .comparison (.plain "uid") .absent .null]

/-- What a person is asked for by arguments that try to add a test of their own. -/
def guardedFilter : Filter :=
  .composite .conjunction [
    .equality "objectclass" (.text "person".toList), .equality "objectclass" (.text "top".toList),
    .composite .disjunction [
      .like "sn" "*)(uid=**".toList,
      .negation (.startingWith "telephoneNumber" (.text "(+1*".toList)),
      .negation (.present "uid")]]

theorem ofText?_text_filterFor_person :
    person.filterFor (some twoPlaceholders) [.text "*)(uid=**"] [("phone", .text "(+1*")] =
        .ok guardedFilter ∧
      ∃ bound branches,
        twoPlaceholders.bind [.text "*)(uid=**"] [("phone", .text "(+1*")] = .ok bound ∧
        Predicate.MeansAtRoot person bound branches ∧
        (∀ others, Predicate.MeansAtRoot person bound others → others = branches) ∧
        DirectoryFilter.ofText? guardedFilter.text =
          some (.composite .conjunction
            ((person.objectClasses.map fun name => .equality "objectclass" (utf8 name.toList)) ++
              branches)) := by
  have parameters : twoPlaceholders.parameters = [⟨0, "lastname"⟩, ⟨1, "phone"⟩] :=
    List.mergeSort_of_pairwise (by decide)
  have compiled : person.filterFor (some twoPlaceholders) [.text "*)(uid=**"]
      [("phone", .text "(+1*")] = .ok guardedFilter := by
    rw [filterFor, Predicate.bind, parameters]
    rfl
  exact ⟨compiled, ofText?_text_filterFor built_person compiled⟩

end Entity

end DirectoryQuery
