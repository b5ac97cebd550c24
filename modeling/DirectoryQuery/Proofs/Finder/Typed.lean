/-
Module: DirectoryQuery.Proofs.Finder.Typed
Purpose: A finder and the expression that spells it out agree.  Each keyword has a method, and any
  bracketing of the methods of the segments has the predicate of the finder with bound arguments.
Main exports:
  Keyword.method, Segment.typed, Criteria.typedLeaves, Finder.toPredicate_eq_bind
-/
import DirectoryQuery.Proofs.Expression.Bracketing
import DirectoryQuery.Proofs.Finder.Arguments

namespace DirectoryQuery

/-! ### Methods of keywords -/

/-- The method that says what a keyword says.  No word, or an unknown one, asks for equality. -/
def Keyword.method (keyword : Keyword) : Method :=
  match keyword.word with
  | "Not" | "IsNot" => .differs
  | "LessThanEqual" | "IsLessThanEqual" => .atMost
  | "GreaterThanEqual" | "IsGreaterThanEqual" => .atLeast
  | "Null" | "IsNull" => .absent
  | "NotNull" | "IsNotNull" => .present
  | "Like" | "IsLike" => .like
  | "NotLike" | "IsNotLike" => .notLike
  | "StartingWith" | "IsStartingWith" | "StartsWith" => .startingWith
  | "EndingWith" | "IsEndingWith" | "EndsWith" => .endingWith
  | "Containing" | "IsContaining" | "Contains" => .containing
  | _ => .equals

/-- The values that a method is given: one, but none by the tests for presence. -/
def Method.arguments : Method → Value → List Value
  | .absent, _ | .present, _ => []
  | _, value => [value]

/-- The two tables agree on every keyword. -/
theorem Keyword.method_eq {keyword : Keyword} (known : keyword ∈ Keyword.all) :
    keyword.method.operator = keyword.operator ∧
      keyword.method.isNegated = keyword.isNegated := by
  have each : ∀ keyword ∈ Keyword.all, keyword.method.operator = keyword.operator ∧
      keyword.method.isNegated = keyword.isNegated := by decide +kernel
  exact each keyword known

/-! ### Leaves -/

/-- A segment as a method of its property. -/
def Segment.typed (segment : Segment) (value : Value) : Expression :=
  .apply segment.keyword.method (.property segment.property)
    (segment.keyword.method.arguments value)

/-- The leaves of the expressions that spell out criteria: the segments in their order, and in each
that takes a value the argument of its rank. -/
def Criteria.typedLeaves (criteria : Criteria) (arguments : List Value) : List Expression :=
  criteria.segments.mapIdx fun place segment =>
    segment.typed (arguments.getD (Segment.rank criteria.segments place) .null)

theorem Expression.toPredicate_apply (method : Method) (property : String) (value : Value) :
    (Expression.apply method (.property property) (method.arguments value)).toPredicate =
      .ok (Expression.comparison method property
        (if method.operator.takesValue then value else .null)) := by
  cases method <;> rfl

theorem Segment.toPredicate_typed {segment : Segment} (known : segment.keyword ∈ Keyword.all)
    (value : Value) : (segment.typed value).toPredicate = .ok (segment.holding value) := by
  obtain ⟨operator, negated⟩ := Keyword.method_eq known
  rw [typed, Expression.toPredicate_apply, Expression.comparison, operator, negated]
  rfl

theorem Expression.toPredicates_mapIdx {α : Type} {items : List α} :
    ∀ {expression : Nat → α → Expression} {predicate : Nat → α → Predicate},
      (∀ place, ∀ item ∈ items, (expression place item).toPredicate = .ok (predicate place item)) →
      toPredicates (items.mapIdx expression) = .ok (items.mapIdx predicate) := by
  induction items with
  | nil => intro expression predicate _; rfl
  | cons item rest ih =>
      intro expression predicate each
      rw [List.mapIdx_cons, List.mapIdx_cons, toPredicates_cons_eq_ok_iff]
      refine ⟨_, _, each 0 item List.mem_cons_self, ih fun place other listed => ?_, rfl⟩
      exact each (place + 1) other (List.mem_cons_of_mem _ listed)

namespace Criteria

variable {criteria : Criteria} {entity : Entity}

theorem toPredicates_typedLeaves
    (admitted : ∀ segment ∈ criteria.segments, segment.IsAdmitted entity)
    (arguments : List Value) :
    Expression.toPredicates (criteria.typedLeaves arguments) =
      .ok (criteria.nodes fun rank _ => arguments.getD rank .null) :=
  Expression.toPredicates_mapIdx fun _ segment listed =>
    Segment.toPredicate_typed (admitted segment listed).keyword _

/-- What nodes make side by side joins them, if the connective is that between the segments. -/
theorem Joins.of_gathers {kind : Connective} {nodes : List Predicate} {result : Predicate}
    (same : ∀ joined ∈ criteria.others, joined.1 = kind)
    (length : nodes.length = criteria.segments.length)
    (gathered : Predicate.Gathers kind nodes result) : criteria.Joins nodes result := by
  rw [segments, List.length_cons, List.length_map] at length
  cases gathered with
  | lone =>
      have none : criteria.others.length = 0 := by simpa using length.symm
      exact .lone (List.eq_nil_of_length_eq_zero none)
  | flat first second others =>
      refine .flat ?_ same
      intro none
      rw [none] at length
      cases length

/-- Nodes that hold no placeholders leave none in their tree. -/
theorem Joins.parameters_eq_nil {arguments : List Value} {bound : Predicate}
    (plain : ∀ argument ∈ arguments, argument.parameter? = none)
    (joined : criteria.Joins (criteria.nodes fun rank _ => arguments.getD rank .null) bound) :
    bound.parameters = [] := by
  have none : bound.placeholders = [] := by
    rw [joined.placeholders_eq, List.flatMap_eq_nil_iff]
    intro node listed
    obtain ⟨place, inside, rfl⟩ := List.mem_mapIdx.1 listed
    rw [Segment.placeholders_holding]
    split
    · rw [Option.toList_eq_nil_iff]
      dsimp only
      rw [List.getD_eq_getElem?_getD]
      cases found : arguments[Segment.rank criteria.segments place]? with
      | none => rfl
      | some argument => exact plain argument (List.mem_of_getElem? found)
    · rfl
  rw [Predicate.parameters, none, List.mergeSort_nil]

end Criteria

/-! ### Agreement -/

namespace Finder

variable {entity : Entity} {descriptor : String} {finder : Finder}

/-- A finder with its arguments bound is the predicate of every expression that spells it out,
however the expression is bracketed.  So both have the same filter, or the same complaint. -/
theorem toPredicate_eq_bind (built : entity.Built)
    (parsed : Finder.parse entity descriptor = .ok finder) {arguments : List Value}
    (enough : arguments.length = finder.arity)
    (plain : ∀ argument ∈ arguments, argument.parameter? = none) :
    ∃ body criteria, criteriaOf descriptor = .ok body ∧
      entity.readCriteria body = .read criteria ∧
      ∀ kind expression, (∀ joined ∈ criteria.others, joined.1 = kind) →
        Expression.Brackets kind expression (criteria.typedLeaves arguments) →
        ∃ bound, expression.toPredicate = .ok bound ∧
          finder.predicate.bind arguments [] = .ok bound ∧
          ∀ target : Entity, target.filterFor (some bound) [] [] =
            target.filterFor (some finder.predicate) arguments [] := by
  obtain ⟨body, criteria, found, outcome, pure, rfl⟩ := parse_eq_ok_iff.1 parsed
  have reading := (built.readCriteria_eq_read_iff.1 outcome).reading
  have joined := Criteria.joins_predicate pure
  rw [arity, criteria.length_placeholders] at enough
  refine ⟨body, criteria, found, outcome, ?_⟩
  intro kind expression same brackets
  obtain ⟨bound, made, gathered⟩ := Expression.toPredicate_of_brackets brackets
    (Criteria.toPredicates_typedLeaves reading.admitted arguments)
    fun node listed kind => Criteria.operands_of_mem_nodes listed kind
  have joined' := Criteria.Joins.of_gathers same (criteria.length_nodes _) gathered
  have binding := joined.bind_eq_ok_iff.2 ⟨enough, joined'⟩
  exact ⟨bound, made, binding, fun target =>
    Entity.filterFor_eq_of_bind (joined'.parameters_eq_nil plain) binding⟩

/-- The three tests of `byNameAndNumber`, bracketed to the right and with two idle connectives. -/
def nestedTests : Expression :=
  .combined .disjunction
    (.combined .conjunction
      (.apply .notLike (.property "lastname") [.text "Sm*"])
      [.combined .conjunction
        (.combined .disjunction (.apply .absent (.property "phone") []) [])
        [.apply .equals (.property "uid") [.int 7]]])
    []

theorem toPredicate_eq_bind_person :
    Entity.person.Built ∧
      Finder.parse Entity.person byNameAndNumber.descriptor = .ok byNameAndNumber ∧
      ∃ bound, nestedTests.toPredicate = .ok bound ∧
        byNameAndNumber.predicate.bind [.text "Sm*", .int 7] [] = .ok bound ∧
        ∀ target : Entity, target.filterFor (some bound) [] [] =
          target.filterFor (some byNameAndNumber.predicate) [.text "Sm*", .int 7] [] := by
  have enough : [Value.text "Sm*", .int 7].length = byNameAndNumber.arity := rfl
  obtain ⟨body, criteria, found, outcome, agree⟩ := toPredicate_eq_bind Entity.built_person
    parse_byNameAndNumber enough (by simp [Value.parameter?])
  have subject : criteriaOf byNameAndNumber.descriptor =
      .ok "LastnameNotLikeAndPhoneIsNullAndUid".toList := by decide +kernel
  cases found.symm.trans subject
  cases outcome.symm.trans readCriteria_nameAndNumber
  refine ⟨Entity.built_person, parse_byNameAndNumber,
    agree .conjunction nestedTests (by decide) ?_⟩
  have phone : Expression.Brackets .conjunction
      (.combined .disjunction (.apply .absent (.property "phone") []) [])
      [.apply .absent (.property "phone") []] := .alone .disjunction (.leaf _)
  have front := Expression.Brackets.joined phone
    (.cons (.leaf (.apply .equals (.property "uid") [.int 7])) .nil)
  exact .alone .disjunction (.joined (.leaf _) (.cons front .nil))

end Finder

end DirectoryQuery
