/-
Module: DirectoryQuery.Proofs.Filter.Member
Purpose: In a comparison a member of an enumeration stands for its value, with four exceptions:
  whether it is taken for a pattern depends on the text that the member is, a value that has no parts
  is let through as a part, a placeholder in it waits for no argument, and a value beyond a limit
  fails either way.
Main exports:
  Agree, escapedPattern_inj, Value.WrittenAs, Value.Astray, Entity.filterText_comparison,
  Entity.ComparesAlike, Entity.comparesAlike_member_iff
-/
import DirectoryQuery.Proofs.Filter.Assertion
import DirectoryQuery.Proofs.Filter.Glob
import DirectoryQuery.Proofs.Filter.Joining
import DirectoryQuery.Value.Member

namespace DirectoryQuery

open Text

/-! ### Attempts that come to the same -/

/-- Two attempts that come to the same: both give one result, or both fail with something to tell. -/
inductive Agree {ε α : Type} (told : ε → Prop) : Except ε α → Except ε α → Prop where
  | made (result : α) : Agree told (.ok result) (.ok result)
  | refused {error error' : ε} (first : told error) (second : told error') :
      Agree told (.error error) (.error error')

namespace Agree

section

variable {ε α : Type} {told : ε → Prop} {a b : α} {error error' : ε}

@[simp] theorem ok_iff : Agree told (.ok a) (.ok b) ↔ a = b := by
  constructor
  · intro agree
    cases agree with
    | made result => rfl
  · intro same
    exact same ▸ .made a

@[simp] theorem error_iff :
    Agree told (.error error : Except ε α) (.error error') ↔ told error ∧ told error' := by
  constructor
  · intro agree
    cases agree with
    | refused first second => exact ⟨first, second⟩
  · intro both
    exact .refused both.1 both.2

@[simp] theorem not_ok_error : ¬Agree told (.ok a) (.error error) := by
  intro agree
  cases agree

@[simp] theorem not_error_ok : ¬Agree told (.error error) (.ok a) := by
  intro agree
  cases agree

end

variable {ε δ α β : Type} {first second : Except ε α}

/-- A change of results that keeps them apart makes no attempts agree. -/
theorem map_iff {told : ε → Prop} {make : α → β} (apart : Function.Injective make) :
    Agree told (first.map make) (second.map make) ↔ Agree told first second := by
  cases first <;> cases second <;> simp [Except.map, apart.eq_iff]

theorem mapError_iff {told : δ → Prop} {change : ε → δ} :
    Agree told (first.mapError change) (second.mapError change) ↔
      Agree (fun error => told (change error)) first second := by
  cases first <;> cases second <;> simp [Except.mapError]

theorem comm {told : ε → Prop} : Agree told first second ↔ Agree told second first := by
  cases first <;> cases second <;> simp [eq_comm, and_comm]

/-- An attempt agrees with itself unless it fails with nothing to tell. -/
theorem self_iff {told : ε → Prop} :
    Agree told first first ↔ ¬∃ error, first = .error error ∧ ¬told error := by
  cases first <;> simp

end Agree

/-! ### Patterns -/

theorem escapedPattern_nil : escapedPattern [] = [] := rfl

/-- Patterns have the same escaped form just if they have the same pieces. -/
theorem escapedPattern_inj {pattern other : List Char} :
    escapedPattern pattern = escapedPattern other ↔ splitPattern pattern = splitPattern other := by
  constructor
  · intro same
    have read := congrArg DirectoryFilter.readPieces same
    rw [readPieces_escapedPattern, readPieces_escapedPattern, Option.some.injEq,
      DirectoryFilter.Pieces.mk.injEq] at read
    obtain ⟨first, others⟩ := read
    exact Prod.ext (utf8_injective first) (utf8_injective.list_map others)
  · intro same
    rw [escapedPattern, escapedPattern, same]

theorem escapedPattern_ne_nil {pattern : List Char} (nonempty : pattern ≠ []) :
    escapedPattern pattern ≠ [] := by
  intro empty
  rw [← escapedPattern_nil, escapedPattern_inj] at empty
  have pieces : PatternPieces pattern [] [] := patternPieces_iff.2 empty
  cases pieces with
  | whole plain => exact nonempty rfl

namespace Filter

variable (attributeName : String) {pattern : List Char}

theorem written_like :
    (like attributeName pattern).written =
      testWritten attributeName ['='] (escapedPattern pattern) := by
  rw [like, written, List.map_map]
  rfl

theorem testWritten_inj {sign value other : List Char} :
    testWritten attributeName sign value = testWritten attributeName sign other ↔
      value = other := by
  simp [testWritten]

/-- The tests for two patterns are one text just if the patterns have the same pieces. -/
theorem text_like_inj {other : List Char} :
    (like attributeName pattern).text = (like attributeName other).text ↔
      splitPattern pattern = splitPattern other := by
  rw [text, text, String.ofList_inj, written_like, written_like, testWritten_inj,
    escapedPattern_inj]

/-- A test for equality reads like one for a pattern if the value is written as the pattern is. -/
theorem text_equality_eq_text_like_iff {value : Assertion} :
    (equality attributeName value).text = (like attributeName pattern).text ↔
      value.written = escapedPattern pattern := by
  have written_equality : (equality attributeName value).written =
      testWritten attributeName ['='] value.written := rfl
  rw [text, text, String.ofList_inj, written_equality, written_like, testWritten_inj]

end Filter

/-! ### Exceptions -/

/-- Whether an operator compares with a part of a text. -/
def Operator.matchesPart : Operator → Bool
  | .like | .startingWith | .endingWith | .containing => true
  | _ => false

/-- A value stands in filters as a pattern is written there. -/
def Value.WrittenAs (value : Value) (pattern : List Char) : Prop :=
  ∃ assertion, value.assertion = .ok assertion ∧ assertion.written = escapedPattern pattern

/-- The values that a member of an enumeration does not stand for in a comparison. -/
inductive Value.Astray (operator : Operator) (kind : MemberKind) : Value → Prop where
  /-- A pattern in a member that is no text.  It is put into the filter like any other value. -/
  | pattern {value : Value} {pattern : String} (like : operator = .like)
      (apart : kind.ownText? = none) (text : value.asText? = some pattern)
      (different : pattern = "" ∨ ¬value.WrittenAs pattern.toList) : Astray operator kind value
  /-- A pattern in a member that is another one. -/
  | ownPattern {value : Value} {own pattern : String} (like : operator = .like)
      (owned : kind.ownText? = some own) (text : value.asText? = some pattern)
      (different : splitPattern own.toList ≠ splitPattern pattern.toList) :
      Astray operator kind value
  /-- A value that is no text in a member that is one, and thus a pattern. -/
  | ownText {value : Value} {own : String} (like : operator = .like)
      (owned : kind.ownText? = some own) (noText : value.asText? = none)
      (different : value.hasNoSubstrings = true ∨ own = "" ∨ ¬value.WrittenAs own.toList) :
      Astray operator kind value
  /-- A truth value or octets as a part of a text.  In a member they go unnoticed. -/
  | part {value : Value} (part : operator.matchesPart = true)
      (noPattern : operator = .like → kind.ownText? = none)
      (whole : value.hasNoSubstrings = true)
      (nonempty : value ≠ .bytes [] ∧ value ≠ .byteArray []) : Astray operator kind value
  /-- A placeholder where no value is looked at.  Its argument is missing all the same. -/
  | placeholder {parameter : Parameter} (ignored : operator.takesValue = false) :
      Astray operator kind (.parameter parameter)
  /-- A value beyond a limit.  Neither attempt fails with a complaint. -/
  | limit {value : Value} (takes : operator.takesValue = true)
      (noPattern : operator = .like → kind.ownText? = none ∧ value.asText? = none)
      (beyond : value.IsBeyondLimits) : Astray operator kind value

namespace Value

variable {value : Value} {appearance : Appearance} {kind : MemberKind} {operator : Operator}

/-- Only a placeholder is astray where no value is looked at. -/
theorem Astray.takesValue (astray : value.Astray operator kind)
    (plain : value.parameter? = none) : operator.takesValue = true := by
  cases astray with
  | pattern like | ownPattern like | ownText like =>
      rw [like]
      rfl
  | part part =>
      cases operator with
      | present | absent => cases part
      | _ => rfl
  | placeholder => cases plain
  | limit takes => exact takes

theorem hasNoSubstrings_of_asText? {text : String} (isText : value.asText? = some text) :
    value.hasNoSubstrings = false := by
  cases value with
  | text | member => rfl
  | _ => cases isText

/-- A value passes for a part of a text and is written as a pattern is just if it may be such a part,
the pattern is not empty and the value stands in filters as it does. -/
theorem exists_substringAssertion_iff {pattern : List Char} :
    (∃ part, value.substringAssertion = .ok part ∧ part.written = escapedPattern pattern) ↔
      value.hasNoSubstrings = false ∧ pattern ≠ [] ∧ value.WrittenAs pattern := by
  constructor
  · rintro ⟨part, passed, written⟩
    unfold substringAssertion at passed
    split at passed
    · cases passed
    · next parts =>
        split at passed
        · cases passed
        · next found =>
            split at passed
            · cases passed
            · next nonempty =>
                cases passed
                refine ⟨Bool.eq_false_iff.2 parts, ?_, part, found, written⟩
                rintro rfl
                exact nonempty written
  · rintro ⟨parts, nonempty, assertion, found, written⟩
    have shown : assertion.written ≠ [] := by
      rw [written]
      exact escapedPattern_ne_nil nonempty
    refine ⟨assertion, ?_, written⟩
    rw [substringAssertion, parts, found]
    simp [shown]

theorem writtenAs_member_iff {pattern : List Char} :
    (member appearance kind value).WrittenAs pattern ↔ value.WrittenAs pattern := Iff.rfl

/-- A part of a text is found in a member as in its value, if the value may be one. -/
theorem substringAssertion_member (parts : value.hasNoSubstrings = false) :
    (member appearance kind value).substringAssertion = value.substringAssertion := by
  rw [substringAssertion, substringAssertion, parts, assertion]
  rfl

/-- A member lets a value through that may be no part of a text, unless it is no octets at all. -/
theorem substringAssertion_member_of_whole (appearance : Appearance) (kind : MemberKind)
    (whole : value.hasNoSubstrings = true) :
    (value = .bytes [] ∨ value = .byteArray []) ∧
        (member appearance kind value).substringAssertion = .error .emptySubstring ∨
      (value ≠ .bytes [] ∧ value ≠ .byteArray []) ∧
        ∃ part, (member appearance kind value).substringAssertion = .ok part := by
  cases value with
  | bool truth => cases truth <;> exact .inr ⟨by simp, _, rfl⟩
  | bytes content =>
      cases content with
      | nil => exact .inl ⟨.inl rfl, rfl⟩
      | cons octet more => exact .inr ⟨by simp, _, rfl⟩
  | byteArray content =>
      cases content with
      | nil => exact .inl ⟨.inr rfl, rfl⟩
      | cons octet more => exact .inr ⟨by simp, _, rfl⟩
  | _ => cases whole

/-! Which exceptions there are depends on whether the member and its value are texts. -/

theorem astray_parameter_iff {parameter : Parameter} :
    (Value.parameter parameter).Astray operator kind ↔
      operator.takesValue = false ∨ operator = .like ∧ kind.ownText? ≠ none := by
  constructor
  · intro astray
    cases astray with
    | pattern _ _ text => cases text
    | ownPattern _ _ text => cases text
    | ownText like owned => exact .inr ⟨like, by simp [owned]⟩
    | part _ _ whole => cases whole
    | placeholder ignored => exact .inl ignored
    | limit _ _ beyond => cases beyond
  · rintro (ignored | ⟨like, owned⟩)
    · exact .placeholder ignored
    · obtain ⟨own, owned⟩ := Option.ne_none_iff_exists'.1 owned
      refine .ownText like owned rfl (.inr (.inr ?_))
      rintro ⟨assertion, ⟨⟩, -⟩

theorem astray_like_iff_of_text {pattern : String} (apart : kind.ownText? = none)
    (text : value.asText? = some pattern) :
    value.Astray .like kind ↔ pattern = "" ∨ ¬value.WrittenAs pattern.toList := by
  constructor
  · intro astray
    cases astray with
    | pattern _ _ text' different =>
        cases text.symm.trans text'
        exact different
    | ownPattern _ owned => cases apart.symm.trans owned
    | ownText _ owned => cases apart.symm.trans owned
    | part _ _ whole => cases (hasNoSubstrings_of_asText? text).symm.trans whole
    | placeholder => cases text
    | limit _ noPattern => cases (noPattern rfl).2.symm.trans text
  · exact .pattern rfl apart text

theorem astray_like_iff_of_texts {own pattern : String} (owned : kind.ownText? = some own)
    (text : value.asText? = some pattern) :
    value.Astray .like kind ↔ splitPattern own.toList ≠ splitPattern pattern.toList := by
  constructor
  · intro astray
    cases astray with
    | pattern _ apart => cases apart.symm.trans owned
    | ownPattern _ owned' text' different =>
        cases owned.symm.trans owned'
        cases text.symm.trans text'
        exact different
    | ownText _ _ noText => cases noText.symm.trans text
    | part _ noPattern => cases (noPattern rfl).symm.trans owned
    | placeholder => cases text
    | limit _ noPattern => cases (noPattern rfl).1.symm.trans owned
  · exact .ownPattern rfl owned text

theorem astray_like_iff_of_own {own : String} (owned : kind.ownText? = some own)
    (noText : value.asText? = none) :
    value.Astray .like kind ↔
      value.hasNoSubstrings = true ∨ own = "" ∨ ¬value.WrittenAs own.toList := by
  constructor
  · intro astray
    cases astray with
    | pattern _ apart => cases apart.symm.trans owned
    | ownPattern _ _ text => cases noText.symm.trans text
    | ownText _ owned' _ different =>
        cases owned.symm.trans owned'
        exact different
    | part _ noPattern => cases (noPattern rfl).symm.trans owned
    | placeholder ignored => cases ignored
    | limit _ noPattern => cases (noPattern rfl).1.symm.trans owned
  · exact .ownText rfl owned noText

/-- Where neither the member nor its value is a pattern, the value may be no part of a text. -/
theorem astray_iff_of_whole (whole : value.hasNoSubstrings = true)
    (noPattern : operator = .like → kind.ownText? = none) :
    value.Astray operator kind ↔
      operator.matchesPart = true ∧ value ≠ .bytes [] ∧ value ≠ .byteArray [] := by
  constructor
  · intro astray
    cases astray with
    | pattern _ _ text => cases (hasNoSubstrings_of_asText? text).symm.trans whole
    | ownPattern _ _ text => cases (hasNoSubstrings_of_asText? text).symm.trans whole
    | ownText like owned => cases (noPattern like).symm.trans owned
    | part part _ _ nonempty => exact ⟨part, nonempty⟩
    | placeholder => cases whole
    | limit _ _ beyond => cases beyond.hasNoSubstrings_eq_false.symm.trans whole
  · rintro ⟨part, nonempty⟩
    exact .part part noPattern whole nonempty

/-- Where a member is no pattern and no part, only a limit is left. -/
theorem astray_iff_isBeyondLimits (takes : operator.takesValue = true)
    (noPattern : operator = .like → kind.ownText? = none ∧ value.asText? = none)
    (noPart : operator.matchesPart = true → value.hasNoSubstrings = false) :
    value.Astray operator kind ↔ value.IsBeyondLimits := by
  constructor
  · intro astray
    cases astray with
    | pattern like _ text => cases (noPattern like).2.symm.trans text
    | ownPattern like owned => cases (noPattern like).1.symm.trans owned
    | ownText like owned => cases (noPattern like).1.symm.trans owned
    | part part _ whole => cases (noPart part).symm.trans whole
    | placeholder ignored => cases takes.symm.trans ignored
    | limit _ _ beyond => exact beyond
  · exact .limit takes noPattern

end Value

theorem FilterError.report?_badValue_ne_none {property : Label} {error : AssertionError}
    (ordinary : error.isLimit = false) : (badValue property error).report? ≠ none := by
  rw [Ne, report?_badValue_eq_none_iff, ordinary]
  exact Bool.false_ne_true

/-! ### Tests -/

namespace Predicate

variable {entity : Entity} {attributeName : String} {property : Label} {operator : Operator}
  {appearance : Appearance} {kind : MemberKind} {value : Value}

/-- Whether two tests come to the same: one text, or complaints. -/
def TestsAgree (first second : Except FilterError Filter) : Prop :=
  Agree (fun error => error.report? ≠ none) (first.map Filter.text) (second.map Filter.text)

theorem testsAgree_ok_iff {test test' : Filter} :
    TestsAgree (.ok test) (.ok test') ↔ test.text = test'.text :=
  Agree.ok_iff

theorem testsAgree_error_iff {error error' : FilterError} :
    TestsAgree (.error error) (.error error') ↔ error.report? ≠ none ∧ error'.report? ≠ none :=
  Agree.error_iff

theorem not_testsAgree_ok_error {test : Filter} {error : FilterError} :
    ¬TestsAgree (.ok test) (.error error) :=
  Agree.not_ok_error

theorem testsAgree_comm {first second : Except FilterError Filter} :
    TestsAgree first second ↔ TestsAgree second first :=
  Agree.comm

/-- If a test for a member is that for its value, only a limit can keep the two from agreeing. -/
theorem testsAgree_iff_of_eq (takes : operator.takesValue = true)
    (same : valueTest attributeName property operator (.member appearance kind value) =
      valueTest attributeName property operator value)
    (noPattern : operator = .like → kind.ownText? = none ∧ value.asText? = none)
    (noPart : operator.matchesPart = true → value.hasNoSubstrings = false) :
    TestsAgree (valueTest attributeName property operator (.member appearance kind value))
        (valueTest attributeName property operator value) ↔ ¬value.Astray operator kind := by
  have limit : (∃ error, valueTest attributeName property operator value = .error error ∧
      error.report? = none) ↔ value.IsBeyondLimits :=
    (exists_valueTest_limit_iff attributeName).trans
      (and_iff_left fun like => (noPattern like).2)
  rw [Value.astray_iff_isBeyondLimits takes noPattern noPart, same, TestsAgree, Agree.self_iff,
    ← limit]
  simp only [map_eq_error_iff, not_not]

/-- Where a value is taken for a part of a text, it has to be one, and the operator has to ask for
one. -/
theorem valueTest_eq_of_part (attributeName : String) (property : Label)
    (compares : operator ∉ [Operator.equals, .atMost, .atLeast])
    (apart : operator = .like → value.asText? = none) :
    valueTest attributeName property operator value =
      (value.substringAssertion.mapError (.badValue property)).bind
        (substringTest attributeName property operator) := by
  cases operator with
  | equals | atMost | atLeast => simp at compares
  | like =>
      simp only [valueTest, apart rfl]
      cases value.substringAssertion <;> rfl
  | _ =>
      unfold valueTest
      dsimp only
      cases value.substringAssertion <;> rfl

theorem valueTest_like_of_asText? (attributeName : String) (property : Label) {pattern : String}
    (text : value.asText? = some pattern) :
    valueTest attributeName property .like value = .ok (.like attributeName pattern.toList) := by
  unfold valueTest
  rw [text]

theorem exists_substringTest_of_matchesPart (part : operator.matchesPart = true)
    (assertion : Assertion) :
    ∃ made, substringTest attributeName property operator assertion = .ok made := by
  cases operator with
  | like | startingWith | endingWith | containing => exact ⟨_, rfl⟩
  | _ => cases part

theorem substringTest_of_not_matchesPart (part : operator.matchesPart = false)
    (assertion : Assertion) :
    substringTest attributeName property operator assertion =
      .error (.unsupportedOperator property operator.symbol) := by
  cases operator with
  | like | startingWith | endingWith | containing => cases part
  | _ => rfl

/-- Compared with a pattern, what is no text comes to the same just if it passes for a part of a text
and is written as the pattern is. -/
theorem testsAgree_like_pattern_iff {pattern : List Char} (noText : value.asText? = none) :
    TestsAgree (valueTest attributeName property .like value)
        (.ok (.like attributeName pattern)) ↔
      value.hasNoSubstrings = false ∧ pattern ≠ [] ∧ value.WrittenAs pattern := by
  rw [valueTest_eq_of_part attributeName property (by decide) fun _ => noText,
    ← Value.exists_substringAssertion_iff]
  cases value.substringAssertion with
  | error error =>
      apply iff_of_false
      · exact Agree.not_error_ok
      · rintro ⟨part, ⟨⟩, -⟩
  | ok part =>
      change TestsAgree (.ok (Filter.equality attributeName part)) _ ↔ _
      rw [testsAgree_ok_iff, Filter.text_equality_eq_text_like_iff]
      simp

/-- A member is taken for a pattern if it is a text, and so is its value. -/
theorem testsAgree_like_iff (apart : kind.ownText? ≠ none ∨ value.asText? ≠ none) :
    TestsAgree (valueTest attributeName property .like (.member appearance kind value))
        (valueTest attributeName property .like value) ↔ ¬value.Astray .like kind := by
  cases owned : kind.ownText? with
  | some own =>
      have test : valueTest attributeName property .like (.member appearance kind value) =
          .ok (.like attributeName own.toList) := valueTest_like_of_asText? _ _ owned
      cases text : value.asText? with
      | some pattern =>
          rw [Value.astray_like_iff_of_texts owned text, test,
            valueTest_like_of_asText? attributeName property text, testsAgree_ok_iff,
            Filter.text_like_inj, not_not]
      | none =>
          rw [Value.astray_like_iff_of_own owned text, test, testsAgree_comm,
            testsAgree_like_pattern_iff text]
          simp only [not_or, not_not, Bool.not_eq_true, Ne, String.toList_eq_nil_iff]
  | none =>
      cases text : value.asText? with
      | some pattern =>
          have noText : (Value.member appearance kind value).asText? = none := owned
          rw [Value.astray_like_iff_of_text owned text,
            valueTest_like_of_asText? attributeName property text,
            testsAgree_like_pattern_iff noText, Value.writtenAs_member_iff]
          have parts : (Value.member appearance kind value).hasNoSubstrings = false := rfl
          simp only [parts, true_and, not_or, not_not, Ne, String.toList_eq_nil_iff]
      | none => simp [owned, text] at apart

/-- As a part of a text a member passes for its value if that may be one.  If it may not, the member is
let through all the same. -/
theorem testsAgree_part_iff (takes : operator.takesValue = true)
    (compares : operator ∉ [Operator.equals, .atMost, .atLeast])
    (noPattern : operator = .like → kind.ownText? = none ∧ value.asText? = none) :
    TestsAgree (valueTest attributeName property operator (.member appearance kind value))
        (valueTest attributeName property operator value) ↔ ¬value.Astray operator kind := by
  have test : valueTest attributeName property operator value = _ :=
    valueTest_eq_of_part attributeName property compares fun like => (noPattern like).2
  have test' : valueTest attributeName property operator (.member appearance kind value) = _ :=
    valueTest_eq_of_part attributeName property compares fun like => (noPattern like).1
  cases whole : value.hasNoSubstrings with
  | false =>
      refine testsAgree_iff_of_eq takes ?_ noPattern fun _ => whole
      rw [test, test', Value.substringAssertion_member whole]
  | true =>
      -- The value is refused for its kind before a member in its place would be opened.
      have refused : value.substringAssertion = .error (.noSubstring value.kindName) :=
        if_pos whole
      have told : (FilterError.badValue property (.noSubstring value.kindName)).report? ≠ none :=
        FilterError.report?_badValue_ne_none rfl
      rw [Value.astray_iff_of_whole whole fun like => (noPattern like).1, test, test', refused]
      rcases Value.substringAssertion_member_of_whole appearance kind whole with
        ⟨empty, failed⟩ | ⟨nonempty, part, passed⟩
      · rw [failed]
        apply iff_of_true
        · exact testsAgree_error_iff.2 ⟨FilterError.report?_badValue_ne_none rfl, told⟩
        · intro both
          exact not_or.2 both.2 empty
      · rw [passed]
        cases asks : operator.matchesPart with
        | true =>
            obtain ⟨made, taken⟩ := exists_substringTest_of_matchesPart asks part
            apply iff_of_false
            · change ¬TestsAgree (substringTest attributeName property operator part) _
              rw [taken]
              exact not_testsAgree_ok_error
            · exact not_not_intro ⟨rfl, nonempty⟩
        | false =>
            apply iff_of_true
            · change TestsAgree (substringTest attributeName property operator part) _
              rw [substringTest_of_not_matchesPart asks]
              exact testsAgree_error_iff.2 ⟨Option.some_ne_none _, told⟩
            · intro both
              cases both.1

/-- A test for a member comes to the same as that for its value, but for the exceptions. -/
theorem testsAgree_member_iff (takes : operator.takesValue = true) :
    TestsAgree (valueTest attributeName property operator (.member appearance kind value))
        (valueTest attributeName property operator value) ↔ ¬value.Astray operator kind := by
  by_cases compares : operator ∈ [Operator.equals, .atMost, .atLeast]
  · have wholes : ∀ operator ∈ [Operator.equals, .atMost, .atLeast],
        operator ≠ .like ∧ operator.matchesPart = false := by decide
    have whole := wholes operator compares
    apply testsAgree_iff_of_eq takes
    · simp only [List.mem_cons, List.not_mem_nil, or_false] at compares
      rcases compares with rfl | rfl | rfl <;> simp only [valueTest, Value.assertion]
    · intro like
      exact absurd like whole.1
    · intro part
      cases whole.2.symm.trans part
  · by_cases pattern : operator = .like ∧ (kind.ownText? ≠ none ∨ value.asText? ≠ none)
    · obtain ⟨rfl, apart⟩ := pattern
      exact testsAgree_like_iff apart
    · refine testsAgree_part_iff takes compares fun like => ?_
      simpa only [like, true_and, not_or, not_not] using pattern

/-- A placeholder in a member that is not taken for a pattern is a value of a kind that no filter can
hold. -/
theorem exists_valueTest_member_parameter (attributeName : String) (property : Label)
    (appearance : Appearance) (parameter : Parameter)
    (noPattern : operator = .like → kind.ownText? = none) :
    ∃ error, valueTest attributeName property operator
        (.member appearance kind (.parameter parameter)) = .error error ∧
      error.report? ≠ none := by
  refine ⟨.badValue property (.noAssertion "Parameter"), ?_, Option.some_ne_none _⟩
  cases operator with
  | like =>
      cases kind with
      | text own => cases noPattern rfl
      | _ => rfl
  | _ => rfl

/-- An operator that takes no value looks at none. -/
theorem exists_comparisonFilter_of_ignored {found : Attribute}
    (usable : filterableAttribute entity property = .ok found)
    (ignored : operator.takesValue = false) :
    ∃ test, ∀ value, comparisonFilter entity property operator value = .ok test := by
  cases operator with
  | present =>
      refine ⟨.present found.attributeName, fun value => ?_⟩
      rw [comparisonFilter, usable]
  | absent =>
      refine ⟨.negation (.present found.attributeName), fun value => ?_⟩
      rw [comparisonFilter, usable]
  | _ => cases ignored

end Predicate

/-! ### Comparisons -/

/-- Whether there is a complaint that something cannot be compiled. -/
def CompilationError.IsComplaint (error : CompilationError) : Prop :=
  ∃ message property, error.report? = some (.uncompilable message property)

theorem CompilationError.isComplaint_condition_iff {error : FilterError} :
    (CompilationError.condition error).IsComplaint ↔ error.report? ≠ none := by
  constructor
  · rintro ⟨message, property, told⟩ silent
    rw [CompilationError.report?, silent] at told
    cases told
  · intro told
    obtain ⟨report, found⟩ := Option.ne_none_iff_exists'.1 told
    obtain ⟨message, property, rfl⟩ := FilterError.exists_uncompilable_of_report? found
    exact ⟨message, property, found⟩

namespace Entity

variable {entity : Entity} {property : Label} {operator : Operator} {value : Value}

/-- A comparison is a conjunct of its own. -/
theorem filterText_comparison (plain : value.parameter? = none) :
    entity.filterText (.comparison property operator value) =
      (((Predicate.comparisonFilter entity property operator value).map Filter.text).map fun text =>
        "(&" ++ entity.classText ++ text ++ ")").mapError .condition := by
  have closed : (Predicate.comparison property operator value).parameters = [] :=
    Predicate.parameters_comparison plain
  have alone : Predicate.filtersText entity [.comparison property operator value] =
      (Predicate.comparisonFilter entity property operator value).map Filter.text := by
    unfold Predicate.filtersText Predicate.filters Predicate.filter
    cases Predicate.comparisonFilter entity property operator value with
    | error error => rfl
    | ok test => simp [Predicate.filters, Except.map, Filter.writtenAll, Filter.text]
  rw [filterText_eq closed, ← alone]
  rfl

/-- A placeholder asks for an argument, whatever the operator. -/
theorem filterText_placeholder (parameter : Parameter) :
    entity.filterText (.comparison property operator (.parameter parameter)) =
      .error (.binding (.refused (.missing parameter.name []))) := by
  have asked : (Predicate.comparison property operator (.parameter parameter)).parameters =
      [parameter] := List.mergeSort_singleton _
  have missing : (Predicate.comparison property operator (.parameter parameter)).bind [] [] =
      .error (.refused (.missing parameter.name [])) := by
    rw [Predicate.bind, asked]
    rfl
  rw [filterText, filterFor, missing]
  rfl

/-- Whether the comparisons of a property with two values come to the same: one filter, or complaints
that there is none. -/
def ComparesAlike (entity : Entity) (property : Label) (operator : Operator)
    (one other : Value) : Prop :=
  Agree CompilationError.IsComplaint (entity.filterText (.comparison property operator one))
    (entity.filterText (.comparison property operator other))

/-- For values that are no placeholders comparisons come to the same if their tests do. -/
theorem comparesAlike_iff {one other : Value} (plain : one.parameter? = none)
    (plain' : other.parameter? = none) :
    entity.ComparesAlike property operator one other ↔
      Predicate.TestsAgree (Predicate.comparisonFilter entity property operator one)
        (Predicate.comparisonFilter entity property operator other) := by
  have apart : Function.Injective fun text => "(&" ++ entity.classText ++ text ++ ")" := by
    intro one other same
    have letters := congrArg String.toList same
    apply String.toList_inj.1
    simpa using letters
  rw [ComparesAlike, filterText_comparison plain, filterText_comparison plain', Agree.mapError_iff,
    Agree.map_iff apart, Predicate.TestsAgree]
  simp only [CompilationError.isComplaint_condition_iff]

/-- A placeholder in a member is missed only where no value is looked at, or where the member is taken
for a pattern. -/
theorem comparesAlike_placeholder_iff (appearance : Appearance) (kind : MemberKind)
    (parameter : Parameter) :
    entity.ComparesAlike property operator (.member appearance kind (.parameter parameter))
        (.parameter parameter) ↔
      ¬((∃ found, Predicate.filterableAttribute entity property = .ok found) ∧
        (operator.takesValue = false ∨ operator = .like ∧ kind.ownText? ≠ none)) := by
  have told : (CompilationError.binding (.refused (.missing parameter.name []))).IsComplaint :=
    ⟨_, _, rfl⟩
  rw [ComparesAlike, filterText_placeholder, filterText_comparison rfl]
  cases usable : Predicate.filterableAttribute entity property with
  | error problem =>
      have failed := Predicate.report?_of_filterableAttribute usable
      rw [Predicate.comparisonFilter, usable]
      simp [Except.map, Except.mapError, CompilationError.isComplaint_condition_iff, failed, told]
  | ok found =>
      cases takes : operator.takesValue with
      | false =>
          obtain ⟨test, made⟩ := Predicate.exists_comparisonFilter_of_ignored usable takes
          rw [made]
          simp [Except.map, Except.mapError]
      | true =>
          obtain ⟨known, queryable⟩ := Predicate.filterableAttribute_eq_ok_iff.1 usable
          rw [Predicate.comparisonFilter_of_queryable known queryable takes]
          by_cases owned : operator = .like ∧ kind.ownText? ≠ none
          · obtain ⟨own, text⟩ := Option.ne_none_iff_exists'.1 owned.2
            have made : Predicate.valueTest found.attributeName property .like
                (.member appearance kind (.parameter parameter)) = _ :=
              Predicate.valueTest_like_of_asText? found.attributeName property text
            simp [Value.parameter?, owned.1, owned.2, made, Except.map, Except.mapError]
          · obtain ⟨error, failed, reported⟩ := Predicate.exists_valueTest_member_parameter
              found.attributeName property appearance parameter
              fun like => not_not.1 fun text => owned ⟨like, text⟩
            simp [Value.parameter?, failed, owned, Except.map, Except.mapError,
              CompilationError.isComplaint_condition_iff, reported, told]

/-- A member of an enumeration stands for its value in the comparisons of a property that may stand in a
filter, but for the exceptions. -/
theorem comparesAlike_member_iff (entity : Entity) (property : Label) (operator : Operator)
    (appearance : Appearance) (kind : MemberKind) (value : Value) :
    entity.ComparesAlike property operator (.member appearance kind value) value ↔
      ¬((∃ found, entity.get? property.text = some found ∧ found.isQueryable = true) ∧
        value.Astray operator kind) := by
  simp only [← Predicate.filterableAttribute_eq_ok_iff]
  -- Placeholders stand apart, since arguments are bound before any test is made.
  cases placeholder : value.parameter? with
  | some parameter =>
      obtain rfl := Value.parameter?_eq_some_iff.1 placeholder
      rw [comparesAlike_placeholder_iff, Value.astray_parameter_iff]
  | none =>
      rw [comparesAlike_iff rfl placeholder]
      cases usable : Predicate.filterableAttribute entity property with
      | error problem =>
          have failed := Predicate.report?_of_filterableAttribute usable
          rw [Predicate.comparisonFilter, Predicate.comparisonFilter, usable]
          simp [Predicate.TestsAgree, Except.map, failed]
      | ok found =>
          cases takes : operator.takesValue with
          | false =>
              obtain ⟨test, made⟩ := Predicate.exists_comparisonFilter_of_ignored usable takes
              have sound : ¬value.Astray operator kind := by
                intro astray
                rw [astray.takesValue placeholder] at takes
                cases takes
              rw [made, made]
              simp [Predicate.TestsAgree, Except.map, sound]
          | true =>
              obtain ⟨known, queryable⟩ := Predicate.filterableAttribute_eq_ok_iff.1 usable
              rw [Predicate.comparisonFilter_of_queryable known queryable takes,
                Predicate.comparisonFilter_of_queryable known queryable takes, placeholder]
              have usable : ∃ found', Except.ok found = (Except.ok found' : Except FilterError _) :=
                ⟨found, rfl⟩
              rw [and_iff_right usable]
              exact Predicate.testsAgree_member_iff takes

/-- A pattern in a member that is no text. -/
def initialS : Value := .member (.ofMember "Initial" "S" (.text "S*")) .plain (.text "S*")

/-- A truth value in a member. -/
def flagOn : Value := .member (.ofMember "Flag" "ON" (.bool true)) .plain (.bool true)

/-- A number in a member that is a text. -/
def markSeven : Value := .member (.ofMember "Mark" "SEVEN" (.int 7)) (.text "S*") (.int 7)

/-- A pattern in a member finds an asterisk, a truth value in a member is found as a part of a text,
and a member that is a text is a pattern, whatever its value is. -/
theorem not_comparesAlike_person :
    (person.filterText (.comparison (.plain "lastname") .like initialS) =
        .ok "(&(objectclass=person)(objectclass=top)(sn=S\\2a))" ∧
      person.filterText (.comparison (.plain "lastname") .like (.text "S*")) =
        .ok "(&(objectclass=person)(objectclass=top)(sn=S*))" ∧
      ¬person.ComparesAlike (.plain "lastname") .like initialS (.text "S*")) ∧
    (person.filterText (.comparison (.plain "lastname") .containing flagOn) =
        .ok "(&(objectclass=person)(objectclass=top)(sn=*TRUE*))" ∧
      person.filterText (.comparison (.plain "lastname") .containing (.bool true)) =
        .error (.condition (.badValue (.plain "lastname") (.noSubstring "bool"))) ∧
      ¬person.ComparesAlike (.plain "lastname") .containing flagOn (.bool true)) ∧
    person.filterText (.comparison (.plain "lastname") .like markSeven) =
        .ok "(&(objectclass=person)(objectclass=top)(sn=S*))" ∧
      person.filterText (.comparison (.plain "lastname") .like (.int 7)) =
        .ok "(&(objectclass=person)(objectclass=top)(sn=7))" ∧
      ¬person.ComparesAlike (.plain "lastname") .like markSeven (.int 7) := by
  have spelled : person.filterText (.comparison (.plain "lastname") .like initialS) =
      .ok "(&(objectclass=person)(objectclass=top)(sn=S\\2a))" := by
    rw [filterText_comparison rfl]
    rfl
  have taken : person.filterText (.comparison (.plain "lastname") .like (.text "S*")) =
      .ok "(&(objectclass=person)(objectclass=top)(sn=S*))" := by
    rw [filterText_comparison rfl]
    rfl
  have passed : person.filterText (.comparison (.plain "lastname") .containing flagOn) =
      .ok "(&(objectclass=person)(objectclass=top)(sn=*TRUE*))" := by
    rw [filterText_comparison rfl]
    rfl
  have refused : person.filterText (.comparison (.plain "lastname") .containing (.bool true)) =
      .error (.condition (.badValue (.plain "lastname") (.noSubstring "bool"))) := by
    rw [filterText_comparison rfl]
    rfl
  have marked : person.filterText (.comparison (.plain "lastname") .like markSeven) =
      .ok "(&(objectclass=person)(objectclass=top)(sn=S*))" := by
    rw [filterText_comparison rfl]
    rfl
  have counted : person.filterText (.comparison (.plain "lastname") .like (.int 7)) =
      .ok "(&(objectclass=person)(objectclass=top)(sn=7))" := by
    rw [filterText_comparison rfl]
    rfl
  refine ⟨⟨spelled, taken, ?_⟩, ⟨passed, refused, ?_⟩, marked, counted, ?_⟩
  · rw [ComparesAlike, spelled, taken, Agree.ok_iff]
    decide
  · rw [ComparesAlike, passed, refused]
    exact Agree.not_ok_error
  · rw [ComparesAlike, marked, counted, Agree.ok_iff]
    decide

end Entity

end DirectoryQuery
