/-
Module: DirectoryQuery.Proofs.Filter.Failure
Purpose: How a call for a filter ends.  It gives a filter or complains about the query, but for three
  kinds of calls: a keyword is taken for an argument of the operation; a node without a meaning
  stands beside placeholders; or a limit of the calendar or of written numbers is met before anything
  that can be complained about.
Main exports:
  Value.IsBeyondLimits, Predicate.fault?, Predicate.refusal?_filter, Predicate.StopsAtLimit,
  Entity.GoesAstray, Entity.goesAstray_iff, Entity.IsAnswered, Entity.isAnswered_of_ordinary,
  Entity.requestFilter_ends
-/
import DirectoryQuery.Filter.Request
import DirectoryQuery.Predicate.Equality
import DirectoryQuery.Proofs.Entity.Built
import DirectoryQuery.Proofs.Predicate.RepeatedIndices
import DirectoryQuery.Proofs.Result

namespace DirectoryQuery

/-! ### Values beyond limits -/

/-- A value that cannot be put into a filter for a reason that is not the filter's: a moment that the
calendar does not reach in universal time, a whole number with too many digits, or a member of an
enumeration that stands for one of these. -/
inductive Value.IsBeyondLimits : Value → Prop where
  | moment {time : Calendar.Moment} (unreached : time.utc? = none) : IsBeyondLimits (.moment time)
  | int {number : Int} (long : isOversized number = true) : IsBeyondLimits (.int number)
  | member (appearance : Appearance) (kind : MemberKind) {value : Value}
      (beyond : IsBeyondLimits value) : IsBeyondLimits (.member appearance kind value)

namespace Value

/-- A limit keeps a value out of filters just if the value is beyond it. -/
theorem exists_limit_iff : ∀ {value : Value},
    (∃ error, value.assertion = .error error ∧ error.isLimit = true) ↔ value.IsBeyondLimits
  | .member appearance kind inner => by
      rw [assertion, exists_limit_iff]
      constructor
      · exact .member appearance kind
      · intro beyond
        cases beyond with
        | member _ _ beyond => exact beyond
  | .int number => by
      rw [assertion]
      constructor
      · rintro ⟨error, failed, -⟩
        split at failed
        · next long => exact .int long
        · cases failed
      · intro beyond
        cases beyond with
        | int long => exact ⟨.oversizedInteger, if_pos long, rfl⟩
  | .moment time => by
      rw [assertion]
      constructor
      · rintro ⟨error, failed, -⟩
        split at failed
        · cases failed
        · next unreached => exact .moment unreached
      · intro beyond
        cases beyond with
        | moment unreached =>
            rw [unreached]
            exact ⟨.timeOutOfRange, rfl, rfl⟩
  | .decimal number => by
      rw [assertion]
      constructor
      · rintro ⟨error, failed, limit⟩
        split at failed
        · cases failed
        · cases failed
          cases limit
      · rintro ⟨⟩
  | .null | .bool _ | .float _ | .text _ | .list _ | .tuple _ | .record _ | .bytes _
  | .byteArray _ | .name _ | .date _ | .parameter _ | .foreign _ => by
      constructor
      · rintro ⟨error, failed, limit⟩
        cases failed <;> cases limit
      · rintro ⟨⟩

/-- A limit that a part of a text meets is met by the whole value. -/
theorem assertion_of_limit {value : Value} {error : AssertionError}
    (failed : value.substringAssertion = .error error) (limit : error.isLimit = true) :
    value.assertion = .error error := by
  unfold substringAssertion at failed
  split at failed
  · cases failed
    cases limit
  · split at failed
    · next stopped =>
        cases failed
        exact stopped
    · split at failed <;> cases failed
      cases limit

theorem IsBeyondLimits.parameter?_eq_none {value : Value} (beyond : value.IsBeyondLimits) :
    value.parameter? = none := by
  cases beyond <;> rfl

theorem IsBeyondLimits.hasNoSubstrings_eq_false {value : Value} (beyond : value.IsBeyondLimits) :
    value.hasNoSubstrings = false := by
  cases beyond <;> rfl

end Value

namespace FilterError

theorem report?_badValue_eq_none_iff {property : Label} {error : AssertionError} :
    (badValue property error).report? = none ↔ error.isLimit = true := by
  simp [report?]

theorem exists_uncompilable_of_report? {error : FilterError} {report : Report}
    (told : error.report? = some report) :
    ∃ message property, report = .uncompilable message property := by
  cases error with
  | badValue property error =>
      rw [report?] at told
      split at told
      · cases told
      · cases told
        exact ⟨_, _, rfl⟩
  | _ =>
      cases told
      exact ⟨_, _, rfl⟩

end FilterError

/-- Whatever is said about a call for a filter is said as a complaint that something cannot be
compiled. -/
theorem RequestError.exists_uncompilable_of_report? {error : RequestError} {report : Report}
    (told : error.report? = some report) :
    ∃ message property, report = .uncompilable message property := by
  cases error with
  | clash clash => cases told
  | compilation error =>
      cases error with
      | condition error => exact FilterError.exists_uncompilable_of_report? told
      | binding failure =>
          cases failure with
          | refused error =>
              cases told
              exact ⟨_, _, rfl⟩
          | meaninglessNode => cases told

namespace Predicate

variable {entity : Entity} {property : Label} {operator : Operator} {value : Value}

/-! ### Faults of comparisons -/

theorem report?_of_filterableAttribute {error : FilterError}
    (failed : filterableAttribute entity property = .error error) : error.report? ≠ none := by
  unfold filterableAttribute at failed
  split at failed
  · cases failed
    exact Option.some_ne_none _
  · split at failed <;> cases failed
    exact Option.some_ne_none _

theorem exists_limit_of_map {make : Assertion → Filter} {error : FilterError}
    (failed : (value.assertion.mapError (FilterError.badValue property)).map make = .error error)
    (unreported : error.report? = none) : value.IsBeyondLimits := by
  obtain ⟨cause, stopped, rfl⟩ := mapError_eq_error_iff.1 (map_eq_error_iff.1 failed)
  exact Value.exists_limit_iff.1
    ⟨cause, stopped, FilterError.report?_badValue_eq_none_iff.1 unreported⟩

theorem report?_of_substringTest {attributeName : String} {part : Assertion} {error : FilterError}
    (failed : substringTest attributeName property operator part = .error error) :
    error.report? ≠ none := by
  unfold substringTest at failed
  split at failed <;> cases failed
  exact Option.some_ne_none _

/-- A comparison with a value stops at a limit just if its value is beyond one.  A pattern is not
looked at for what else it stands for. -/
theorem exists_valueTest_limit_iff (attributeName : String) :
    (∃ error, valueTest attributeName property operator value = .error error ∧
      error.report? = none) ↔
      value.IsBeyondLimits ∧ (operator = .like → value.asText? = none) := by
  constructor
  · rintro ⟨error, failed, unreported⟩
    unfold valueTest at failed
    dsimp only at failed
    split at failed
    · exact ⟨exists_limit_of_map failed unreported, by rintro ⟨⟩⟩
    · exact ⟨exists_limit_of_map failed unreported, by rintro ⟨⟩⟩
    · exact ⟨exists_limit_of_map failed unreported, by rintro ⟨⟩⟩
    · cases failed
    · next noPattern =>
        split at failed
        · next cause stopped =>
            cases failed
            have limit := FilterError.report?_badValue_eq_none_iff.1 unreported
            refine ⟨Value.exists_limit_iff.1
              ⟨cause, Value.assertion_of_limit stopped limit, limit⟩, fun like => ?_⟩
            rw [Option.eq_none_iff_forall_ne_some]
            exact fun pattern => noPattern pattern like
        · exact absurd unreported (report?_of_substringTest failed)
  · rintro ⟨beyond, noPattern⟩
    obtain ⟨cause, stopped, limit⟩ := Value.exists_limit_iff.2 beyond
    have part : value.substringAssertion = .error cause := by
      rw [Value.substringAssertion, beyond.hasNoSubstrings_eq_false, stopped]
      rfl
    refine ⟨.badValue property cause, ?_, FilterError.report?_badValue_eq_none_iff.2 limit⟩
    unfold valueTest
    rw [part, stopped]
    cases operator with
    | like => rw [noPattern rfl]
    | _ => rfl

/-- The test of a property that may stand in a filter, if it compares with a value. -/
theorem comparisonFilter_of_queryable {found : Attribute}
    (known : entity.get? property.text = some found) (queryable : found.isQueryable = true)
    (takes : operator.takesValue = true) :
    comparisonFilter entity property operator value =
      match value.parameter? with
      | some placeholder => .error (.unbound property placeholder.name)
      | none => valueTest found.attributeName property operator value := by
  rw [comparisonFilter, filterableAttribute_eq_ok_iff.2 ⟨known, queryable⟩]
  cases operator with
  | present => cases takes
  | absent => cases takes
  | _ => rfl

/-- A node meets a limit if it compares a property that may stand in a filter with a value beyond
one, and does not take the value for a pattern. -/
inductive MeetsLimit (entity : Entity) : Predicate → Prop where
  | comparison {property : Label} {operator : Operator} {value : Value} {found : Attribute}
      (known : entity.get? property.text = some found) (queryable : found.isQueryable = true)
      (takes : operator.takesValue = true) (beyond : value.IsBeyondLimits)
      (noPattern : operator = .like → value.asText? = none) :
      MeetsLimit entity (.comparison property operator value)

theorem exists_comparisonFilter_limit_iff :
    (∃ error, comparisonFilter entity property operator value = .error error ∧
      error.report? = none) ↔ MeetsLimit entity (.comparison property operator value) := by
  constructor
  · rintro ⟨error, failed, unreported⟩
    cases usable : filterableAttribute entity property with
    | error problem =>
        rw [comparisonFilter, usable] at failed
        cases failed
        exact absurd unreported (report?_of_filterableAttribute usable)
    | ok found =>
        obtain ⟨known, queryable⟩ := filterableAttribute_eq_ok_iff.1 usable
        have takes : operator.takesValue = true := by
          rw [comparisonFilter, usable] at failed
          cases operator <;> first | rfl | cases failed
        rw [comparisonFilter_of_queryable known queryable takes] at failed
        split at failed
        · cases failed
          cases unreported
        · obtain ⟨beyond, noPattern⟩ :=
            (exists_valueTest_limit_iff _).1 ⟨error, failed, unreported⟩
          exact .comparison known queryable takes beyond noPattern
  · rintro ⟨known, queryable, takes, beyond, noPattern⟩
    rw [comparisonFilter_of_queryable known queryable takes, beyond.parameter?_eq_none]
    exact (exists_valueTest_limit_iff _).2 ⟨beyond, noPattern⟩

/-! ### The first fault -/

/-- The error of a failed attempt. -/
def refusal? {α : Type} : Except FilterError α → Option FilterError
  | .error error => some error
  | .ok _ => none

/-- What is wrong with a node, its parts apart. -/
def fault? (entity : Entity) : Predicate → Option FilterError
  | .comparison property operator value =>
    refusal? (comparisonFilter entity property operator value)
  | .negation _ | .composite _ _ _ => none
  | .bare => some .meaninglessNode

mutual

/-- A predicate stands for a filter unless a node of it is at fault, and it is the first fault that
makes it fail. -/
theorem refusal?_filter (entity : Entity) (predicate : Predicate) :
    refusal? (predicate.filter entity) = predicate.walk.findSome? (fault? entity) := by
  cases predicate with
  | comparison property operator value =>
      simp only [filter, walk, List.findSome?_singleton, fault?]
  | negation operand =>
      rw [walk, List.findSome?_cons, fault?, ← refusal?_filter entity operand, filter]
      cases operand.filter entity <;> rfl
  | composite kind first others =>
      rw [walk, List.findSome?_cons, fault?, List.findSome?_append,
        ← refusal?_filter entity first, ← refusal?_filters entity others, filter]
      cases first.filter entity with
      | error error => rfl
      | ok made => cases filters entity others <;> rfl
  | bare => rfl

theorem refusal?_filters (entity : Entity) (predicates : List Predicate) :
    refusal? (filters entity predicates) =
      (walkAll predicates).findSome? (fault? entity) := by
  cases predicates with
  | nil => rfl
  | cons predicate rest =>
      rw [walkAll, List.findSome?_append, ← refusal?_filter entity predicate,
        ← refusal?_filters entity rest, filters]
      cases predicate.filter entity with
      | error error => rfl
      | ok made => cases filters entity rest <;> rfl

end

/-- Taking a composite apart hides no fault. -/
theorem findSome?_walkAll_operands (entity : Entity) (kind : Connective) (predicate : Predicate) :
    (walkAll (predicate.operands kind)).findSome? (fault? entity) =
      predicate.walk.findSome? (fault? entity) := by
  cases predicate with
  | composite other first others =>
      by_cases same : other = kind
      · rw [operands, if_pos same, walk, List.findSome?_cons, fault?, walkAll]
      · simp [operands, same, walkAll]
  | _ => simp [operands, walkAll]

theorem refusal?_filters_conjuncts (entity : Entity) (predicate : Predicate) :
    refusal? (filters entity predicate.conjuncts) =
      predicate.walk.findSome? (fault? entity) := by
  rw [refusal?_filters, conjuncts, findSome?_walkAll_operands]

/-- Only a limit is a fault that there is no complaint about. -/
theorem exists_fault?_limit_iff {node : Predicate} :
    (∃ error, node.fault? entity = some error ∧ error.report? = none) ↔
      node.MeetsLimit entity := by
  cases node with
  | comparison property operator value =>
      rw [← exists_comparisonFilter_limit_iff, fault?]
      cases comparisonFilter entity property operator value <;> simp [refusal?]
  | negation operand =>
      constructor
      · rintro ⟨error, ⟨⟩, -⟩
      · rintro ⟨⟩
  | composite kind first others =>
      constructor
      · rintro ⟨error, ⟨⟩, -⟩
      · rintro ⟨⟩
  | bare =>
      constructor
      · rintro ⟨error, ⟨⟩, ⟨⟩⟩
      · rintro ⟨⟩

/-- Whether the first fault of a predicate is that a limit is met. -/
def StopsAtLimit (entity : Entity) (predicate : Predicate) : Prop :=
  ∃ before node after, predicate.walk = before ++ node :: after ∧
    (∀ earlier ∈ before, earlier.fault? entity = none) ∧ node.MeetsLimit entity

/-- The tests of a predicate stop at a limit just if it is the first fault of the predicate. -/
theorem exists_refusal?_limit_iff {predicate : Predicate} :
    (∃ error, filters entity predicate.conjuncts = .error error ∧ error.report? = none) ↔
      predicate.StopsAtLimit entity := by
  have failed (error : FilterError) : filters entity predicate.conjuncts = .error error ↔
      predicate.walk.findSome? (fault? entity) = some error := by
    rw [← refusal?_filters_conjuncts]
    cases filters entity predicate.conjuncts <;> simp [refusal?]
  constructor
  · rintro ⟨error, stopped, unreported⟩
    obtain ⟨before, node, after, walked, fault, sound⟩ :=
      List.findSome?_eq_some_iff.1 ((failed error).1 stopped)
    exact ⟨before, node, after, walked, sound,
      exists_fault?_limit_iff.1 ⟨error, fault, unreported⟩⟩
  · rintro ⟨before, node, after, walked, sound, meets⟩
    obtain ⟨error, fault, unreported⟩ := exists_fault?_limit_iff.2 meets
    refine ⟨error, (failed error).2 ?_, unreported⟩
    exact List.findSome?_eq_some_iff.2 ⟨before, node, after, walked, fault, sound⟩

/-! ### Nodes without a meaning -/

/-- A node without a meaning is met while binding just if there is something to bind. -/
theorem bind_eq_meaninglessNode_iff {predicate : Predicate} {arguments : List Value}
    {keywords : List (String × Value)} :
    predicate.bind arguments keywords = .error .meaninglessNode ↔
      predicate.parameters ≠ [] ∧ .bare ∈ predicate.walk ∧
        ∃ table, bindings predicate.parameters arguments keywords = .ok table := by
  constructor
  · intro failed
    rcases exists_refused_or_bindings predicate arguments keywords with ⟨error, refused⟩ | made
    · rw [failed] at refused
      cases refused
    · by_contra other
      have fine : predicate.parameters = [] ∨ .bare ∉ predicate.walk := by tauto
      obtain ⟨table, made⟩ := made
      rw [bind_eq_ok_iff_fill.2 ⟨fine, table, made, rfl⟩] at failed
      cases failed
  · rintro ⟨some, meaningless, table, made⟩
    have unfilled : predicate.substitute table = none := by
      rw [Option.eq_none_iff_forall_ne_some]
      intro bound filled
      exact ((substitute_eq_some_iff table predicate bound).1 filled).1 meaningless
    unfold bind
    split
    · next none => exact absurd none some
    · rw [made]
      dsimp only
      rw [unfilled]

/-! ### Ordinary calls -/

/-- The value of a filled node is a value of the node or a given argument. -/
theorem mem_values_of_fill {predicate : Predicate} {arguments : List Value}
    {keywords : List (String × Value)} {table : Bindings}
    (made : bindings predicate.parameters arguments keywords = .ok table)
    (found : comparison property operator value ∈ (predicate.fill table.argument).walk)
    (ordinary : value.parameter? = none) :
    comparison property operator value ∈ predicate.walk ∨
      value ∈ arguments ++ keywords.map (·.2) := by
  rw [walk_fill] at found
  obtain ⟨part, listed, filled⟩ := List.mem_map.1 found
  cases part with
  | comparison property' operator' value' =>
      cases filled
      cases placeholder : value'.parameter? with
      | none =>
          left
          have kept : value'.fill table.argument = value' := by
            cases value' <;> first | rfl | cases placeholder
          rwa [kept]
      | some p =>
          right
          cases Value.parameter?_eq_some_iff.1 placeholder
          rw [Value.fill, Bindings.argument] at ordinary ⊢
          cases bound : table.value? p.index with
          | none =>
              rw [bound] at ordinary
              cases ordinary
          | some argument =>
              have entry : (p.index, argument) ∈ table := by
                obtain ⟨before, after, rfl, -⟩ := List.lookup_eq_some_iff.1 bound
                simp
              rw [← List.mem_reverse, ← values_of_bindings made]
              exact List.mem_map_of_mem entry
  | _ => cases filled

/-- A bound predicate meets no limit if no value of it and no argument is beyond one. -/
theorem not_stopsAtLimit_of_bind {predicate bound : Predicate} {arguments : List Value}
    {keywords : List (String × Value)}
    (binding : predicate.bind arguments keywords = .ok bound)
    (within : ∀ property operator value, comparison property operator value ∈ predicate.walk →
      ¬value.IsBeyondLimits)
    (given : ∀ value ∈ arguments ++ keywords.map (·.2), ¬value.IsBeyondLimits) :
    ¬bound.StopsAtLimit entity := by
  rintro ⟨before, node, after, walked, -, meets⟩
  have found : node ∈ bound.walk := by simp [walked]
  cases meets with
  | comparison known queryable takes beyond noPattern =>
      obtain ⟨-, table, made, rfl⟩ := bind_eq_ok_iff_fill.1 binding
      rcases mem_values_of_fill made found beyond.parameter?_eq_none with listed | argument
      · exact within _ _ _ listed beyond
      · exact given _ argument beyond

end Predicate

/-! ### Calls -/

namespace Entity

/-- The calls for a filter that come neither to a filter nor to a complaint. -/
inductive GoesAstray (entity : Entity) :
    Option Predicate → List Value → List (String × Value) → Prop where
  | keyword {predicate : Option Predicate} {arguments : List Value}
      {keywords : List (String × Value)} {keyword : String × Value}
      (given : keyword ∈ keywords) (own : keyword.1 ∈ filterCall.ownNames) :
      GoesAstray entity predicate arguments keywords
  | meaninglessNode {predicate : Predicate} {arguments : List Value}
      {keywords : List (String × Value)} {table : Bindings}
      (apart : ∀ keyword ∈ keywords, keyword.1 ∉ filterCall.ownNames)
      (asks : predicate.parameters ≠ [])
      (made : Predicate.bindings predicate.parameters arguments keywords = .ok table)
      (meaningless : .bare ∈ predicate.walk) :
      GoesAstray entity (some predicate) arguments keywords
  | limit {predicate bound : Predicate} {arguments : List Value}
      {keywords : List (String × Value)}
      (apart : ∀ keyword ∈ keywords, keyword.1 ∉ filterCall.ownNames)
      (binding : predicate.bind arguments keywords = .ok bound)
      (stops : bound.StopsAtLimit entity) : GoesAstray entity (some predicate) arguments keywords

variable {entity : Entity} {predicate : Option Predicate} {arguments : List Value}
  {keywords : List (String × Value)}

/-- A call that goes astray fails without a complaint. -/
theorem GoesAstray.exists_unreported (astray : entity.GoesAstray predicate arguments keywords) :
    ∃ error, entity.requestFilter predicate arguments keywords = .error error ∧
      error.report? = none := by
  cases astray with
  | keyword given own =>
      cases clash : filterCall.clash? keywords with
      | none => exact absurd own (Callable.clash?_eq_none.1 clash _ given)
      | some found => exact ⟨.clash found, by rw [requestFilter, clash], rfl⟩
  | meaninglessNode apart asks made meaningless =>
      have failed := Predicate.bind_eq_meaninglessNode_iff.2 ⟨asks, meaningless, _, made⟩
      refine ⟨.compilation (.binding .meaninglessNode), ?_, rfl⟩
      rw [requestFilter, Callable.clash?_eq_none.2 apart, filterFor, failed]
      rfl
  | limit apart binding stops =>
      obtain ⟨error, failed, unreported⟩ := Predicate.exists_refusal?_limit_iff.2 stops
      refine ⟨.compilation (.condition error), ?_, unreported⟩
      rw [requestFilter, Callable.clash?_eq_none.2 apart, filterFor, binding]
      dsimp only
      rw [failed]
      rfl

/-- Where no keyword is taken for an argument of the operation, a failure without a complaint comes of
a node without a meaning or of a limit. -/
theorem goesAstray_of_filterFor {error : CompilationError}
    (apart : ∀ keyword ∈ keywords, keyword.1 ∉ filterCall.ownNames)
    (failed : entity.filterFor predicate arguments keywords = .error error)
    (unreported : error.report? = none) : entity.GoesAstray predicate arguments keywords := by
  unfold filterFor at failed
  cases predicate with
  | none =>
      dsimp only at failed
      split at failed <;> cases failed
      cases unreported
  | some predicate =>
      dsimp only at failed
      cases binding : predicate.bind arguments keywords with
      | error failure =>
          rw [binding] at failed
          cases failed
          cases failure with
          | refused error => cases unreported
          | meaninglessNode =>
              obtain ⟨asks, meaningless, table, made⟩ :=
                Predicate.bind_eq_meaninglessNode_iff.1 binding
              exact .meaninglessNode apart asks made meaningless
      | ok bound =>
          rw [binding] at failed
          dsimp only at failed
          split at failed
          · next problem stopped =>
              cases failed
              exact .limit apart binding
                (Predicate.exists_refusal?_limit_iff.1 ⟨problem, stopped, unreported⟩)
          · cases failed

/-- What there is no complaint about goes astray, and nothing else does. -/
theorem goesAstray_iff :
    entity.GoesAstray predicate arguments keywords ↔
      ∃ error, entity.requestFilter predicate arguments keywords = .error error ∧
        error.report? = none := by
  constructor
  · exact GoesAstray.exists_unreported
  · intro ended
    obtain ⟨error, failed, unreported⟩ := ended
    unfold requestFilter at failed
    split at failed
    · next clash found =>
        obtain ⟨keyword, given, -⟩ := Option.map_eq_some_iff.1 found
        exact .keyword (List.mem_of_find?_eq_some given) (by simpa using List.find?_some given)
    · next apart =>
        obtain ⟨cause, stopped, rfl⟩ := mapError_eq_error_iff.1 failed
        exact goesAstray_of_filterFor (Callable.clash?_eq_none.1 apart) stopped unreported

/-- Whether a call is answered: with a filter, or with a complaint that something cannot be
compiled. -/
def IsAnswered (entity : Entity) (predicate : Option Predicate) (arguments : List Value)
    (keywords : List (String × Value)) : Prop :=
  (∃ filter, entity.requestFilter predicate arguments keywords = .ok filter) ∨
    ∃ error message property, entity.requestFilter predicate arguments keywords = .error error ∧
      error.report? = some (.uncompilable message property)

theorem isAnswered_or_goesAstray :
    entity.IsAnswered predicate arguments keywords ∨
      entity.GoesAstray predicate arguments keywords := by
  cases ended : entity.requestFilter predicate arguments keywords with
  | ok filter => exact .inl (.inl ⟨filter, ended⟩)
  | error error =>
      cases told : error.report? with
      | none => exact .inr (goesAstray_iff.2 ⟨error, ended, told⟩)
      | some report =>
          obtain ⟨message, property, rfl⟩ := RequestError.exists_uncompilable_of_report? told
          exact .inl (.inr ⟨error, message, property, ended, told⟩)

theorem IsAnswered.not_goesAstray (answered : entity.IsAnswered predicate arguments keywords) :
    ¬entity.GoesAstray predicate arguments keywords := by
  intro astray
  obtain ⟨error, failed, unreported⟩ := astray.exists_unreported
  rcases answered with ⟨filter, made⟩ | ⟨other, message, property, failed', told⟩
  · rw [made] at failed
    cases failed
  · rw [failed'] at failed
    cases failed
    rw [told] at unreported
    cases unreported

/-- A call is answered if its keywords are not taken for arguments of the operation, no node without
a meaning stands beside placeholders, and no value of the predicate or of the call is beyond a
limit. -/
theorem isAnswered_of_ordinary
    (apart : ∀ keyword ∈ keywords, keyword.1 ∉ filterCall.ownNames)
    (meaningful : ∀ whole ∈ predicate, whole.parameters = [] ∨ .bare ∉ whole.walk)
    (within : ∀ whole ∈ predicate, ∀ property operator value,
      .comparison property operator value ∈ whole.walk → ¬value.IsBeyondLimits)
    (given : ∀ value ∈ arguments ++ keywords.map (·.2), ¬value.IsBeyondLimits) :
    entity.IsAnswered predicate arguments keywords := by
  apply isAnswered_or_goesAstray.resolve_right
  intro astray
  cases astray with
  | keyword given own => exact apart _ given own
  | meaninglessNode _ asks _ meaningless =>
      rcases meaningful _ rfl with none | without
      · exact asks none
      · exact without meaningless
  | limit _ binding stops =>
      exact Predicate.not_stopsAtLimit_of_bind binding (within _ rfl) given stops

/-- A call for a filter is answered or goes astray, but not both, and it goes astray just if it ends
in an error that there is no complaint about. -/
theorem requestFilter_ends (entity : Entity) (predicate : Option Predicate)
    (arguments : List Value) (keywords : List (String × Value)) :
    (entity.IsAnswered predicate arguments keywords ↔
        ¬entity.GoesAstray predicate arguments keywords) ∧
      (entity.GoesAstray predicate arguments keywords ↔
        ∃ error, entity.requestFilter predicate arguments keywords = .error error ∧
          error.report? = none) :=
  ⟨⟨IsAnswered.not_goesAstray, isAnswered_or_goesAstray.resolve_right⟩, goesAstray_iff⟩

/-- A comparison with a value. -/
def lastnameIs (value : Value) : Predicate := .comparison (.plain "lastname") .equals value

/-- The comparison with a value beside a node without a meaning. -/
def besideNothing (value : Value) : Predicate :=
  .composite .conjunction (lastnameIs value) [.bare]

/-- The beginning of the calendar in a place whose clocks are an hour ahead. -/
def firstMidnight : Calendar.Moment where
  date := ⟨1, 1, 1, by decide, by decide, by decide, by decide, by decide, by decide⟩
  hour := 0
  minute := 0
  second := 0
  microsecond := 0
  offset := some 3600000000
  hour_lt := by decide
  minute_lt := by decide
  second_lt := by decide
  microsecond_lt := by decide
  offset_lt := by
    rintro ahead ⟨⟩
    decide

/-- The same node is complained about beside a value, but not beside the placeholder that is given
the value.  Nothing is said either about a moment before the beginning of the calendar. -/
theorem requestFilter_unanswered_person :
    person.IsAnswered (some (besideNothing (.text "x"))) [] [] ∧
      person.requestFilter (some (besideNothing (.parameter ⟨0, "lastname"⟩))) [.text "x"] [] =
        .error (.compilation (.binding .meaninglessNode)) ∧
      ¬person.IsAnswered (some (besideNothing (.parameter ⟨0, "lastname"⟩))) [.text "x"] [] ∧
      ¬person.IsAnswered (some (lastnameIs (.moment firstMidnight))) [] [] := by
  have asked : (besideNothing (.parameter ⟨0, "lastname"⟩)).parameters = [⟨0, "lastname"⟩] := by
    rw [Predicate.parameters, show Predicate.placeholders _ = [⟨0, "lastname"⟩] from rfl]
    exact List.mergeSort_singleton _
  have astray : person.requestFilter (some (besideNothing (.parameter ⟨0, "lastname"⟩)))
      [.text "x"] [] = .error (.compilation (.binding .meaninglessNode)) := by
    rw [requestFilter, filterFor, Predicate.bind, asked]
    rfl
  have closed : (besideNothing (.text "x")).bind [] [] = .ok (besideNothing (.text "x")) :=
    (Predicate.bind_nil_eq_ok_iff (Predicate.parameters_eq_nil_iff.2 rfl)).2 ⟨rfl, rfl⟩
  refine ⟨.inr ⟨.compilation (.condition .meaninglessNode), _, _, ?_, rfl⟩, astray, ?_, ?_⟩
  · rw [requestFilter, filterFor, closed]
    rfl
  · exact fun answered => answered.not_goesAstray (goesAstray_iff.2 ⟨_, astray, rfl⟩)
  · intro answered
    have closed : (lastnameIs (.moment firstMidnight)).bind [] [] = .ok _ :=
      (Predicate.bind_nil_eq_ok_iff (Predicate.parameters_eq_nil_iff.2 rfl)).2 ⟨rfl, rfl⟩
    have known : ∃ found, person.get? "lastname" = some found ∧ found.isQueryable = true := by
      decide
    obtain ⟨found, known, queryable⟩ := known
    refine answered.not_goesAstray (.limit (by simp) closed ⟨[], _, [], rfl, by simp, ?_⟩)
    exact .comparison known queryable rfl (.moment (by decide +kernel)) (by rintro ⟨⟩)

end Entity

end DirectoryQuery
