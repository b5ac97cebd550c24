/-
Module: DirectoryQuery.Proofs.Expression.Canonical
Purpose: The predicate of an expression is in normal form and says what the expression says: it makes
  the same tests in the same order, and it holds under the same truth values of them.  Expressions
  that differ by brackets only have the same predicate.
Main exports:
  Test, Predicate.IsNormal, Predicate.tests, Predicate.holds, Expression.tests, Expression.holds,
  Predicate.Represents, Expression.Rebrackets, Expression.toPredicate_canonical
-/
import DirectoryQuery.Proofs.Expression.Bracketing
import DirectoryQuery.Proofs.Predicate.Binding
import Mathlib.Logic.Relation

namespace DirectoryQuery

/-- The comparison of a property with a value, as something that is true of an entry or not. -/
structure Test where
  property : Label
  operator : Operator
  value : Value

/-- Whether truth values joined by a connective are true: all of them, or any. -/
def Connective.joins : Connective → List Bool → Bool
  | .conjunction, values => values.all id
  | .disjunction, values => values.any id

namespace Connective

theorem joins_singleton (kind : Connective) (value : Bool) : kind.joins [value] = value := by
  cases kind <;> simp [joins]

/-- Joining what was joined before is joining all of it at once. -/
theorem joins_flatMap {α : Type} (kind : Connective) (items : List α) (values : α → List Bool) :
    kind.joins (items.flatMap values) = kind.joins (items.map fun item => kind.joins (values item)) := by
  cases kind with
  | conjunction => simp [joins, List.all_flatMap]
  | disjunction => simp [joins, List.any_flatMap]

end Connective

/-! ### Predicates -/

namespace Predicate

/-- Whether a predicate is a composite of a connective. -/
def IsComposite (kind : Connective) (predicate : Predicate) : Prop :=
  ∃ first others, predicate = .composite kind first others

/-- The predicates in normal form: no composite has a lone operand, or an operand that is a composite
of the same connective. -/
inductive IsNormal : Predicate → Prop where
  | comparison (property : Label) (operator : Operator) (value : Value) :
      IsNormal (.comparison property operator value)
  | negation {operand : Predicate} (normal : IsNormal operand) : IsNormal (.negation operand)
  | composite {kind : Connective} {first second : Predicate} {others : List Predicate}
      (each : ∀ operand ∈ first :: second :: others, IsNormal operand)
      (apart : ∀ operand ∈ first :: second :: others, ¬operand.IsComposite kind) :
      IsNormal (.composite kind first (second :: others))

/-- The test of a comparison. -/
def test? : Predicate → Option Test
  | .comparison property operator value => some ⟨property, operator, value⟩
  | _ => none

/-- The tests of a predicate in the order of its comparisons. -/
def tests (predicate : Predicate) : List Test := predicate.walk.filterMap test?

mutual

/-- Whether a predicate holds, given which tests are true.  A bare node does not. -/
def holds (truth : Test → Bool) : Predicate → Bool
  | .comparison property operator value => truth ⟨property, operator, value⟩
  | .negation operand => !holds truth operand
  | .composite kind first others => kind.joins (holds truth first :: holdsEach truth others)
  | .bare => false

/-- Which of several predicates hold. -/
def holdsEach (truth : Test → Bool) : List Predicate → List Bool
  | [] => []
  | predicate :: rest => holds truth predicate :: holdsEach truth rest

end

theorem holdsEach_eq_map (truth : Test → Bool) (predicates : List Predicate) :
    holdsEach truth predicates = predicates.map (holds truth) := by
  induction predicates with
  | nil => rfl
  | cons predicate rest ih => rw [holdsEach, ih, List.map_cons]

/-- The tests of a composite are those of its operands. -/
theorem tests_composite (kind : Connective) (first : Predicate) (others : List Predicate) :
    (composite kind first others).tests = (first :: others).flatMap tests := by
  have walked : (composite kind first others).walk =
      composite kind first others :: (first :: others).flatMap walk := by
    rw [walk, walkAll_eq_flatMap, List.flatMap_cons]
  rw [tests, walked, List.filterMap_cons_none rfl, List.filterMap_flatMap]
  rfl

theorem holds_composite (truth : Test → Bool) (kind : Connective) (first : Predicate)
    (others : List Predicate) :
    (composite kind first others).holds truth = kind.joins ((first :: others).map (holds truth)) := by
  rw [holds, holdsEach_eq_map, List.map_cons]

/-! ### Operands -/

section

variable {kind : Connective} {predicate : Predicate}

theorem operands_of_not_isComposite (apart : ¬predicate.IsComposite kind) :
    predicate.operands kind = [predicate] := by
  cases predicate with
  | composite other first others =>
      apply if_neg
      rintro rfl
      exact apart ⟨first, others, rfl⟩
  | _ => rfl

theorem operands_composite (kind : Connective) (first : Predicate) (others : List Predicate) :
    (composite kind first others).operands kind = first :: others := if_pos rfl

/-- What a predicate contributes to a composite makes the same tests. -/
theorem flatMap_tests_operands (kind : Connective) (predicate : Predicate) :
    (predicate.operands kind).flatMap tests = predicate.tests := by
  by_cases composite : predicate.IsComposite kind
  · obtain ⟨first, others, rfl⟩ := composite
    rw [operands_composite, tests_composite]
  · rw [operands_of_not_isComposite composite, List.flatMap_singleton]

/-- What a predicate contributes to a composite says the same there. -/
theorem joins_holds_operands (truth : Test → Bool) (kind : Connective) (predicate : Predicate) :
    kind.joins ((predicate.operands kind).map (holds truth)) = predicate.holds truth := by
  by_cases composite : predicate.IsComposite kind
  · obtain ⟨first, others, rfl⟩ := composite
    rw [operands_composite, holds_composite]
  · rw [operands_of_not_isComposite composite, List.map_singleton, Connective.joins_singleton]

/-- A predicate in normal form contributes predicates in normal form, none of them a composite of the
connective.  One level of splicing is enough for this. -/
theorem IsNormal.of_mem_operands (normal : predicate.IsNormal) {node : Predicate}
    (listed : node ∈ predicate.operands kind) : node.IsNormal ∧ ¬node.IsComposite kind := by
  by_cases composite : predicate.IsComposite kind
  · obtain ⟨first, others, rfl⟩ := composite
    rw [operands_composite] at listed
    cases normal with
    | composite each apart => exact ⟨each node listed, apart node listed⟩
  · rw [operands_of_not_isComposite composite, List.mem_singleton] at listed
    exact listed ▸ ⟨normal, composite⟩

/-- Joining a predicate in normal form with nothing leaves it as it is. -/
theorem IsNormal.merge?_alone (normal : predicate.IsNormal) (kind : Connective) :
    merge? kind [predicate] = some predicate := by
  rw [merge?_eq_some_iff, List.flatMap_singleton]
  by_cases composite : predicate.IsComposite kind
  · obtain ⟨first, others, rfl⟩ := composite
    rw [operands_composite]
    cases normal with
    | composite each apart => exact .flat _ _ _
  · rw [operands_of_not_isComposite composite]
    exact .lone predicate

end

namespace Gathers

variable {kind : Connective} {nodes : List Predicate} {result : Predicate}

theorem isNormal (gathered : Gathers kind nodes result)
    (each : ∀ node ∈ nodes, node.IsNormal ∧ ¬node.IsComposite kind) : result.IsNormal := by
  cases gathered with
  | lone => exact (each result List.mem_cons_self).1
  | flat first second others =>
      exact .composite (fun node listed => (each node listed).1) fun node listed =>
        (each node listed).2

theorem tests_eq (gathered : Gathers kind nodes result) : result.tests = nodes.flatMap tests := by
  cases gathered with
  | lone => rw [List.flatMap_singleton]
  | flat first second others => exact tests_composite kind first (second :: others)

theorem holds_eq (gathered : Gathers kind nodes result) (truth : Test → Bool) :
    result.holds truth = kind.joins (nodes.map (holds truth)) := by
  cases gathered with
  | lone => rw [List.map_singleton, Connective.joins_singleton]
  | flat first second others => exact holds_composite truth kind first (second :: others)

end Gathers

end Predicate

/-! ### Expressions -/

/-- The test that a method makes of its operands: of a property and the value to compare it with, or
of a property alone. -/
def Method.test? (method : Method) : List Expression → Option Test
  | .property name :: others =>
    if method.operator.takesValue then
      match others with
      | [.constant value] => some ⟨.plain name, method.operator, value⟩
      | _ => none
    else
      some ⟨.plain name, method.operator, .null⟩
  | _ => none

namespace Expression

mutual

/-- The tests of an expression from left to right. -/
def tests : Expression → List Test
  | .operation (.compare method) operands => (method.test? operands).toList
  | .operation _ operands => testsEach operands
  | _ => []

/-- The tests of expressions from left to right. -/
def testsEach : List Expression → List Test
  | [] => []
  | expression :: rest => tests expression ++ testsEach rest

end

mutual

/-- Whether an expression holds, given which tests are true: the connectives mean what they say, and
some methods deny their test.  What is no condition does not hold. -/
def holds (truth : Test → Bool) : Expression → Bool
  | .operation (.compare method) operands =>
    match method.test? operands with
    | some test => method.isNegated ^^ truth test
    | none => false
  | .operation (.combine kind) operands => kind.joins (holdsEach truth operands)
  | .operation .negate operands =>
    match holdsEach truth operands with
    | [value] => !value
    | _ => false
  | _ => false

/-- Which of several expressions hold. -/
def holdsEach (truth : Test → Bool) : List Expression → List Bool
  | [] => []
  | expression :: rest => holds truth expression :: holdsEach truth rest

end

end Expression

/-- A predicate in normal form that makes the tests of an expression in their order, and holds just if
the expression does. -/
structure Predicate.Represents (predicate : Predicate) (expression : Expression) : Prop where
  normal : predicate.IsNormal
  tests : predicate.tests = expression.tests
  holds : ∀ truth, predicate.holds truth = expression.holds truth

namespace Expression

/-- Predicates that represent expressions, one by one. -/
abbrev RepresentEach (expressions : List Expression) (predicates : List Predicate) : Prop :=
  List.Forall₂ (fun expression predicate => predicate.Represents expression) expressions predicates

section

variable {expressions : List Expression} {predicates : List Predicate}

theorem RepresentEach.normal (each : RepresentEach expressions predicates) :
    ∀ predicate ∈ predicates, predicate.IsNormal := by
  induction each with
  | nil => simp
  | cons head _ ih => exact List.forall_mem_cons.2 ⟨head.normal, ih⟩

theorem RepresentEach.tests_eq (each : RepresentEach expressions predicates) :
    predicates.flatMap Predicate.tests = testsEach expressions := by
  induction each with
  | nil => rfl
  | cons head _ ih => rw [List.flatMap_cons, testsEach, head.tests, ih]

theorem RepresentEach.holds_eq (each : RepresentEach expressions predicates)
    (truth : Test → Bool) : predicates.map (Predicate.holds truth) = holdsEach truth expressions := by
  induction each with
  | nil => rfl
  | cons head _ ih => rw [List.map_cons, holdsEach, head.holds, ih]

end

/-- The comparison that a method makes represents its test, denied where the method denies it. -/
theorem represents_of_methodPredicate {method : Method} {operands : List Expression}
    {predicate : Predicate} (made : methodPredicate method operands = .ok predicate) :
    predicate.Represents (.operation (.compare method) operands) := by
  have comparison {name : String} {value : Value}
      (found : method.test? operands = some ⟨.plain name, method.operator, value⟩) :
      (comparison method name value).Represents (.operation (.compare method) operands) := by
    unfold Expression.comparison
    constructor
    · split
      · exact .negation (.comparison _ _ _)
      · exact .comparison _ _ _
    · rw [tests, found]
      split <;> rfl
    · intro truth
      rw [holds, found]
      split <;> simp [*, Predicate.holds]
  unfold methodPredicate at made
  split at made
  · cases made
  · next name others =>
      split at made
      · next takes =>
          split at made
          · next value =>
              cases made
              apply comparison
              rw [Method.test?, if_pos takes]
          · cases made
      · next tests =>
          cases made
          apply comparison
          unfold Method.test?
          exact if_neg tests
  · cases made

/-- Merged predicates represent the expressions joined. -/
theorem represents_of_merge? {kind : Connective} {operands : List Expression}
    {predicates : List Predicate} {predicate : Predicate}
    (each : RepresentEach operands predicates)
    (merged : Predicate.merge? kind predicates = some predicate) :
    predicate.Represents (.operation (.combine kind) operands) := by
  have gathered := Predicate.merge?_eq_some_iff.1 merged
  constructor
  · apply gathered.isNormal
    intro node listed
    obtain ⟨part, inside, contributed⟩ := List.mem_flatMap.1 listed
    exact (each.normal part inside).of_mem_operands contributed
  · calc predicate.tests
      _ = (predicates.flatMap (Predicate.operands kind)).flatMap Predicate.tests :=
        gathered.tests_eq
      _ = predicates.flatMap Predicate.tests := by
        rw [List.flatMap_assoc]
        simp only [Predicate.flatMap_tests_operands]
      _ = testsEach operands := each.tests_eq
      _ = tests (.operation (.combine kind) operands) := by rw [tests]; rintro method ⟨⟩
  · intro truth
    calc predicate.holds truth
      _ = kind.joins ((predicates.flatMap (Predicate.operands kind)).map
          (Predicate.holds truth)) := gathered.holds_eq truth
      _ = kind.joins (predicates.map (Predicate.holds truth)) := by
        rw [List.map_flatMap, Connective.joins_flatMap]
        simp only [Predicate.joins_holds_operands]
      _ = holds truth (.operation (.combine kind) operands) := by rw [each.holds_eq, holds]

/-- A negated predicate represents the negated expression. -/
theorem represents_negation {operand : Expression} {predicate : Predicate}
    (inner : predicate.Represents operand) :
    (Predicate.negation predicate).Represents (.negated operand) := by
  constructor
  · exact .negation inner.normal
  · rw [negated, tests, testsEach, testsEach, List.append_nil, ← inner.tests]
    · rfl
    · rintro method ⟨⟩
  · intro truth
    rw [Predicate.holds, negated, holds, holdsEach, holdsEach, inner.holds]

/-- An operation on conditions combines their predicates. -/
theorem toPredicate_operation {operator : ExpressionOperator}
    (boolean : ∀ method, operator ≠ .compare method) (operands : List Expression) :
    (operation operator operands).toPredicate =
      (toPredicates operands).bind (combinedPredicate operator) := by
  rw [toPredicate]
  · cases toPredicates operands <;> rfl
  · exact boolean

theorem toPredicate_operation_eq_ok {operator : ExpressionOperator}
    (boolean : ∀ method, operator ≠ .compare method) {operands : List Expression}
    {predicate : Predicate} (made : (operation operator operands).toPredicate = .ok predicate) :
    ∃ predicates, toPredicates operands = .ok predicates ∧
      combinedPredicate operator predicates = .ok predicate := by
  rw [toPredicate_operation boolean] at made
  cases all : toPredicates operands with
  | error error =>
      rw [all] at made
      cases made
  | ok predicates =>
      rw [all] at made
      exact ⟨predicates, rfl, made⟩

/-- What an operator on conditions makes of representing predicates represents the operation. -/
theorem represents_of_combinedPredicate {operator : ExpressionOperator}
    (boolean : ∀ method, operator ≠ .compare method) {operands : List Expression}
    {predicates : List Predicate} {predicate : Predicate}
    (each : RepresentEach operands predicates)
    (combined : combinedPredicate operator predicates = .ok predicate) :
    predicate.Represents (.operation operator operands) := by
  cases operator with
  | compare method => exact absurd rfl (boolean method)
  | combine kind =>
      unfold combinedPredicate at combined
      dsimp only at combined
      split at combined
      · next result merged =>
          cases combined
          exact represents_of_merge? each merged
      · cases combined
  | negate =>
      cases each with
      | nil => cases combined
      | cons head rest =>
          cases rest with
          | nil =>
              cases combined
              exact represents_negation head
          | cons second more => cases combined

mutual

/-- The predicate of an expression represents it. -/
theorem represents_of_toPredicate {expression : Expression} {predicate : Predicate}
    (made : expression.toPredicate = .ok predicate) : predicate.Represents expression := by
  cases expression with
  | operation operator operands =>
      by_cases boolean : ∀ method, operator ≠ .compare method
      · obtain ⟨predicates, all, combined⟩ := toPredicate_operation_eq_ok boolean made
        exact represents_of_combinedPredicate boolean (representEach_of_toPredicates all) combined
      · simp only [not_forall, not_not] at boolean
        obtain ⟨method, rfl⟩ := boolean
        exact represents_of_methodPredicate made
  | _ => cases made

theorem representEach_of_toPredicates {expressions : List Expression}
    {predicates : List Predicate} (made : toPredicates expressions = .ok predicates) :
    RepresentEach expressions predicates := by
  cases expressions with
  | nil =>
      cases made
      exact .nil
  | cons expression rest =>
      obtain ⟨first, others, head, tail, rfl⟩ := toPredicates_cons_eq_ok_iff.1 made
      exact .cons (represents_of_toPredicate head) (representEach_of_toPredicates tail)

end

/-! ### Brackets -/

/-- Taking one pair of brackets out of an expression: a connective inside the same connective, or a
connective that joins an expression with nothing.  The brackets may stand anywhere in the condition. -/
inductive Rebrackets : Expression → Expression → Prop where
  | spliced (kind : Connective) (before inner after : List Expression) (nonempty : inner ≠ []) :
      Rebrackets
        (.operation (.combine kind) (before ++ .operation (.combine kind) inner :: after))
        (.operation (.combine kind) (before ++ (inner ++ after)))
  | unwrapped (kind : Connective) (expression : Expression) :
      Rebrackets (.combined kind expression []) expression
  | inside {operator : ExpressionOperator} (boolean : ∀ method, operator ≠ .compare method)
      (before after : List Expression) {expression other : Expression}
      (step : Rebrackets expression other) :
      Rebrackets (.operation operator (before ++ expression :: after))
        (.operation operator (before ++ other :: after))

theorem combinedPredicate_of_merge? {kind : Connective} {predicates : List Predicate}
    {result : Predicate} (merged : Predicate.merge? kind predicates = some result) :
    combinedPredicate (.combine kind) predicates = .ok result := by
  rw [combinedPredicate, merged]

/-- Only what predicates contribute matters to what they combine to. -/
theorem combinedPredicate_congr {kind : Connective} {predicates others : List Predicate}
    (same : predicates.flatMap (Predicate.operands kind) =
      others.flatMap (Predicate.operands kind)) :
    combinedPredicate (.combine kind) predicates = combinedPredicate (.combine kind) others := by
  have merged : Predicate.merge? kind predicates = Predicate.merge? kind others := by
    unfold Predicate.merge?
    rw [same]
  rw [combinedPredicate, combinedPredicate, merged]

/-- Predicates of expressions merge to one that contributes what they contribute. -/
theorem exists_merge?_of_toPredicates (kind : Connective) {expressions : List Expression}
    (nonempty : expressions ≠ []) {predicates : List Predicate}
    (made : toPredicates expressions = .ok predicates) :
    ∃ result, Predicate.merge? kind predicates = some result ∧
      result.operands kind = predicates.flatMap (Predicate.operands kind) := by
  have each := representEach_of_toPredicates made
  have some : predicates.flatMap (Predicate.operands kind) ≠ [] := by
    cases each with
    | nil => exact absurd rfl nonempty
    | cons head rest =>
        rw [List.flatMap_cons]
        exact List.append_ne_nil_of_left_ne_nil (Predicate.operands_ne_nil kind _) _
  obtain ⟨result, gathered⟩ := Predicate.Gathers.exists_of_ne_nil kind some
  refine ⟨result, Predicate.merge?_eq_some_iff.2 gathered, gathered.operands_eq ?_⟩
  intro node listed
  obtain ⟨part, inside, contributed⟩ := List.mem_flatMap.1 listed
  apply Predicate.operands_of_not_isComposite
  exact ((each.normal part inside).of_mem_operands contributed).2

/-- Brackets leave no trace in the predicate, nor in the complaint if there is none. -/
theorem Rebrackets.toPredicate_eq {expression other : Expression}
    (step : Rebrackets expression other) : expression.toPredicate = other.toPredicate := by
  induction step with
  | spliced kind before inner after nonempty =>
      have boolean : ∀ method, ExpressionOperator.combine kind ≠ .compare method := by
        rintro method ⟨⟩
      rw [toPredicate_operation boolean, toPredicate_operation boolean, toPredicates_append,
        toPredicates_append, toPredicates_cons, toPredicates_append, toPredicate_operation boolean]
      -- The first operand that fails is the same on both sides.
      cases toPredicates before with
      | error error => rfl
      | ok first =>
          cases made : toPredicates inner with
          | error error => rfl
          | ok parts =>
              obtain ⟨result, merged, same⟩ := exists_merge?_of_toPredicates kind nonempty made
              have whole : (Except.ok parts).bind (combinedPredicate (.combine kind)) =
                  .ok result := combinedPredicate_of_merge? merged
              rw [whole]
              cases toPredicates after with
              | error error => rfl
              | ok others =>
                  apply combinedPredicate_congr
                  simp only [List.flatMap_append, List.flatMap_cons, same]
  | unwrapped kind expression =>
      have boolean : ∀ method, ExpressionOperator.combine kind ≠ .compare method := by
        rintro method ⟨⟩
      rw [combined, toPredicate_operation boolean, toPredicates_cons]
      cases made : expression.toPredicate with
      | error error => rfl
      | ok predicate =>
          have alone := (represents_of_toPredicate made).normal.merge?_alone kind
          exact combinedPredicate_of_merge? alone
  | inside boolean before after step ih =>
      rw [toPredicate_operation boolean, toPredicate_operation boolean, toPredicates_append,
        toPredicates_append, toPredicates_cons, toPredicates_cons, ih]

theorem toPredicate_eq_of_eqvGen {expression other : Expression}
    (related : Relation.EqvGen Rebrackets expression other) :
    expression.toPredicate = other.toPredicate := by
  induction related with
  | rel expression other step => exact step.toPredicate_eq
  | refl expression => rfl
  | symm expression other _ ih => exact ih.symm
  | trans expression middle other _ _ first second => exact first.trans second

/-- The predicate of an expression is in normal form, makes the tests of the expression from left to
right, and holds just if the expression does, whatever the tests say.  An expression that differs by
brackets only has the same predicate. -/
theorem toPredicate_canonical {expression : Expression} {predicate : Predicate}
    (made : expression.toPredicate = .ok predicate) :
    predicate.IsNormal ∧ predicate.tests = expression.tests ∧
      (∀ truth, predicate.holds truth = expression.holds truth) ∧
      ∀ other, Relation.EqvGen Rebrackets expression other → other.toPredicate = .ok predicate := by
  obtain ⟨normal, tests, holds⟩ := represents_of_toPredicate made
  refine ⟨normal, tests, holds, ?_⟩
  intro other related
  rw [← toPredicate_eq_of_eqvGen related, made]

/-- A negated conjunction, bracketed to the left and with an idle connective inside. -/
def bracketedLeft : Expression :=
  .negated (.combined .conjunction
    (.combined .conjunction (.apply .differs (.property "lastname") [.text "Smith"])
      [.combined .disjunction (.apply .equals (.property "uid") [.int 7]) []])
    [.apply .absent (.property "phone") []])

/-- The same conjunction, bracketed to the right. -/
def bracketedRight : Expression :=
  .negated (.combined .conjunction (.apply .differs (.property "lastname") [.text "Smith"])
    [.combined .conjunction (.apply .equals (.property "uid") [.int 7])
      [.apply .absent (.property "phone") []]])

/-- What both stand for. -/
def withoutBrackets : Predicate :=
  .negation (.composite .conjunction
    (.negation (.comparison (.plain "lastname") .equals (.text "Smith")))
    [.comparison (.plain "uid") .equals (.int 7), .comparison (.plain "phone") .absent .null])

theorem toPredicate_canonical_bracketed :
    bracketedLeft.toPredicate = .ok withoutBrackets ∧
      bracketedRight.toPredicate = .ok withoutBrackets ∧
      withoutBrackets.IsNormal ∧ withoutBrackets.tests = bracketedLeft.tests ∧
      ∀ truth, withoutBrackets.holds truth = bracketedLeft.holds truth := by
  have made : bracketedLeft.toPredicate = .ok withoutBrackets := rfl
  obtain ⟨normal, tests, holds, others⟩ := toPredicate_canonical made
  refine ⟨made, others bracketedRight ?_, normal, tests, holds⟩
  have join : ∀ method, ExpressionOperator.combine .conjunction ≠ .compare method := by
    rintro method ⟨⟩
  have deny : ∀ method, ExpressionOperator.negate ≠ .compare method := by
    rintro method ⟨⟩
  have idle := Rebrackets.unwrapped .disjunction (.apply .equals (.property "uid") [.int 7])
  have left := Rebrackets.spliced .conjunction []
    [.apply .differs (.property "lastname") [.text "Smith"],
      .apply .equals (.property "uid") [.int 7]]
    [.apply .absent (.property "phone") []] (List.cons_ne_nil _ _)
  have right := Rebrackets.spliced .conjunction
    [.apply .differs (.property "lastname") [.text "Smith"]]
    [.apply .equals (.property "uid") [.int 7], .apply .absent (.property "phone") []]
    [] (List.cons_ne_nil _ _)
  have first := (idle.inside join [.apply .differs (.property "lastname") [.text "Smith"]] []).inside
    join [] [.apply .absent (.property "phone") []]
  exact .trans _ _ _ (.rel _ _ (first.inside deny [] [])) (.trans _ _ _
    (.rel _ _ (left.inside deny [] [])) (.symm _ _ (.rel _ _ (right.inside deny [] []))))

end Expression

end DirectoryQuery
