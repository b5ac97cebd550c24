/-
Module: DirectoryQuery.Proofs.Expression.Bracketing
Purpose: How expressions are bracketed leaves no trace in their predicates: whatever the nesting of
  one connective, and whatever joins a lone expression, the tests end up side by side.
Main exports:
  Predicate.IsSimple, Predicate.Gathers, Expression.Brackets, Expression.toPredicate_of_brackets
-/
import DirectoryQuery.Expression.Predicate
import DirectoryQuery.Proofs.Result

namespace DirectoryQuery

/-! ### Merging -/

namespace Predicate

/-- A predicate that is no composite: it contributes itself to any. -/
def IsSimple (predicate : Predicate) : Prop := ∀ kind, predicate.operands kind = [predicate]

/-- The predicate that operands make side by side: a lone one itself, several a composite. -/
inductive Gathers (kind : Connective) : List Predicate → Predicate → Prop where
  | lone (operand : Predicate) : Gathers kind [operand] operand
  | flat (first second : Predicate) (others : List Predicate) :
      Gathers kind (first :: second :: others) (.composite kind first (second :: others))

theorem merge?_eq_some_iff {kind : Connective} {predicates : List Predicate} {result : Predicate} :
    merge? kind predicates = some result ↔
      Gathers kind (predicates.flatMap (operands kind)) result := by
  unfold merge?
  generalize predicates.flatMap (operands kind) = nodes
  constructor
  · intro made
    match nodes with
    | [] => cases made
    | [single] =>
        cases made
        exact .lone result
    | first :: second :: others =>
        cases made
        exact .flat first second others
  · intro gathered
    cases gathered <;> rfl

namespace Gathers

variable {kind : Connective} {nodes : List Predicate} {result : Predicate}

theorem exists_of_ne_nil (kind : Connective) (nonempty : nodes ≠ []) :
    ∃ result, Gathers kind nodes result := by
  obtain ⟨first, others, rfl⟩ := List.exists_cons_of_ne_nil nonempty
  cases others with
  | nil => exact ⟨first, .lone first⟩
  | cons second more => exact ⟨_, .flat first second more⟩

theorem ne_nil (gathered : Gathers kind nodes result) : nodes ≠ [] := by
  cases gathered <;> exact List.cons_ne_nil _ _

/-- What operands of no composite of a kind make contributes them to a composite of that kind. -/
theorem operands_eq (gathered : Gathers kind nodes result)
    (apart : ∀ node ∈ nodes, node.operands kind = [node]) : result.operands kind = nodes := by
  cases gathered with
  | lone => exact apart result List.mem_cons_self
  | flat first second others => exact if_pos rfl

/-- Joining a predicate with nothing, by whatever connective, leaves it as it is. -/
theorem merge?_alone (gathered : Gathers kind nodes result)
    (simple : ∀ node ∈ nodes, node.IsSimple) (other : Connective) :
    merge? other [result] = some result := by
  rw [merge?_eq_some_iff, List.flatMap_singleton]
  cases gathered with
  | lone =>
      rw [simple result List.mem_cons_self other]
      exact .lone result
  | flat first second others =>
      by_cases same : kind = other
      · subst same
        rw [operands, if_pos rfl]
        exact .flat first second others
      · rw [operands, if_neg same]
        exact .lone _

end Gathers

end Predicate

/-! ### Bracketings -/

namespace Expression

mutual

/-- The ways of joining leaves by a connective, two or more at a time.  An expression may also be
joined with nothing, and then by either connective. -/
inductive Brackets (kind : Connective) : Expression → List Expression → Prop where
  | leaf (leaf : Expression) : Brackets kind leaf [leaf]
  | alone (other : Connective) {expression : Expression} {leaves : List Expression}
      (inner : Brackets kind expression leaves) :
      Brackets kind (.combined other expression []) leaves
  | joined {first : Expression} {others leaves more : List Expression}
      (front : Brackets kind first leaves) (rest : BracketsEach kind others more) :
      Brackets kind (.combined kind first others) (leaves ++ more)

/-- Expressions that join leaves by a connective, with the leaves of all of them in order. -/
inductive BracketsEach (kind : Connective) : List Expression → List Expression → Prop where
  | nil : BracketsEach kind [] []
  | cons {first : Expression} {others leaves more : List Expression}
      (front : Brackets kind first leaves) (rest : BracketsEach kind others more) :
      BracketsEach kind (first :: others) (leaves ++ more)

end

theorem toPredicates_cons (expression : Expression) (rest : List Expression) :
    toPredicates (expression :: rest) =
      expression.toPredicate.bind fun predicate => (toPredicates rest).map (predicate :: ·) := by
  rw [toPredicates]
  cases expression.toPredicate with
  | error error => rfl
  | ok predicate => cases toPredicates rest <;> rfl

theorem toPredicates_cons_eq_ok_iff {expression : Expression} {rest : List Expression}
    {predicates : List Predicate} :
    toPredicates (expression :: rest) = .ok predicates ↔
      ∃ first others, expression.toPredicate = .ok first ∧ toPredicates rest = .ok others ∧
        predicates = first :: others := by
  rw [toPredicates_cons, bind_map_eq_ok_iff]

/-- Expressions one after the other have their predicates one after the other.  The first failure
counts. -/
theorem toPredicates_append (front rest : List Expression) :
    toPredicates (front ++ rest) =
      (toPredicates front).bind fun first => (toPredicates rest).map (first ++ ·) := by
  induction front with
  | nil =>
      rw [List.nil_append]
      cases toPredicates rest <;> rfl
  | cons expression more ih =>
      rw [List.cons_append, toPredicates_cons, toPredicates_cons, ih]
      cases expression.toPredicate with
      | error error => rfl
      | ok head => cases toPredicates more <;> cases toPredicates rest <;> rfl

theorem toPredicates_append_eq_ok {front rest : List Expression} {predicates : List Predicate}
    (made : toPredicates (front ++ rest) = .ok predicates) :
    ∃ first others, toPredicates front = .ok first ∧ toPredicates rest = .ok others ∧
      predicates = first ++ others := by
  rw [toPredicates_append] at made
  exact bind_map_eq_ok_iff.1 made

theorem toPredicate_combined {kind : Connective} {first : Expression} {others : List Expression}
    {predicates : List Predicate} {result : Predicate}
    (made : toPredicates (first :: others) = .ok predicates)
    (merged : Predicate.merge? kind predicates = some result) :
    (combined kind first others).toPredicate = .ok result := by
  rw [combined, toPredicate, made]
  dsimp only
  rw [combinedPredicate, merged]
  intro method other
  cases other

mutual

/-- A bracketing of leaves has the predicate that the predicates of the leaves make side by side. -/
theorem toPredicate_of_brackets {kind : Connective} {expression : Expression}
    {leaves : List Expression} (brackets : Brackets kind expression leaves)
    {nodes : List Predicate} (made : toPredicates leaves = .ok nodes)
    (simple : ∀ node ∈ nodes, node.IsSimple) :
    ∃ result, expression.toPredicate = .ok result ∧ Predicate.Gathers kind nodes result := by
  cases brackets with
  | leaf =>
      obtain ⟨node, others, head, tail, rfl⟩ := toPredicates_cons_eq_ok_iff.1 made
      cases tail
      exact ⟨node, head, .lone node⟩
  | alone other inner =>
      obtain ⟨result, head, gathered⟩ := toPredicate_of_brackets inner made simple
      refine ⟨result, ?_, gathered⟩
      exact toPredicate_combined (toPredicates_cons_eq_ok_iff.2 ⟨result, [], head, rfl, rfl⟩)
        (gathered.merge?_alone simple other)
  | joined front rest =>
      obtain ⟨first, others, head, tail, rfl⟩ := toPredicates_append_eq_ok made
      obtain ⟨simple, simple'⟩ := List.forall_mem_append.1 simple
      obtain ⟨predicate, one, gathered⟩ := toPredicate_of_brackets front head simple
      obtain ⟨predicates, more, each⟩ := toPredicates_of_bracketsEach rest tail simple'
      have operands : (predicate :: predicates).flatMap (Predicate.operands kind) =
          first ++ others := by
        rw [List.flatMap_cons, gathered.operands_eq fun node listed => simple node listed kind, each]
      obtain ⟨result, gathered'⟩ := Predicate.Gathers.exists_of_ne_nil kind
        (List.append_ne_nil_of_left_ne_nil gathered.ne_nil others)
      refine ⟨result, ?_, gathered'⟩
      exact toPredicate_combined
        (toPredicates_cons_eq_ok_iff.2 ⟨predicate, predicates, one, more, rfl⟩)
        (Predicate.merge?_eq_some_iff.2 (operands ▸ gathered'))

theorem toPredicates_of_bracketsEach {kind : Connective} {expressions leaves : List Expression}
    (brackets : BracketsEach kind expressions leaves) {nodes : List Predicate}
    (made : toPredicates leaves = .ok nodes) (simple : ∀ node ∈ nodes, node.IsSimple) :
    ∃ predicates, toPredicates expressions = .ok predicates ∧
      predicates.flatMap (Predicate.operands kind) = nodes := by
  cases brackets with
  | nil =>
      cases made
      exact ⟨[], rfl, rfl⟩
  | cons front rest =>
      obtain ⟨first, others, head, tail, rfl⟩ := toPredicates_append_eq_ok made
      obtain ⟨simple, simple'⟩ := List.forall_mem_append.1 simple
      obtain ⟨predicate, one, gathered⟩ := toPredicate_of_brackets front head simple
      obtain ⟨predicates, more, each⟩ := toPredicates_of_bracketsEach rest tail simple'
      refine ⟨predicate :: predicates,
        toPredicates_cons_eq_ok_iff.2 ⟨predicate, predicates, one, more, rfl⟩, ?_⟩
      rw [List.flatMap_cons, gathered.operands_eq fun node listed => simple node listed kind, each]

end

end Expression

end DirectoryQuery
