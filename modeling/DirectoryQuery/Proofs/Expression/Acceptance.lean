/-
Module: DirectoryQuery.Proofs.Expression.Acceptance
Purpose: Which expressions stand for a predicate, and what is wrong with the others.  Every expression
  that stands where a condition is needed is judged by itself, operands before the operation on them,
  and the first one with a complaint decides.
Main exports:
  Expression.conditions, Expression.complaint?, Expression.IsSound, Expression.HasSurplus,
  Expression.IsMiscounted, Expression.toPredicate_eq_error_iff, Expression.toPredicate_judged
-/
import DirectoryQuery.Proofs.Expression.Canonical

namespace DirectoryQuery.Expression

/-! ### Conditions -/

mutual

/-- The expressions that stand where a condition is needed.  The operands of a connective or a negation
come before the operation. -/
def conditions : Expression → List Expression
  | .operation (.compare method) operands => [.operation (.compare method) operands]
  | .operation operator operands => conditionsEach operands ++ [.operation operator operands]
  | expression => [expression]

/-- The expressions that stand where conditions are needed in one of several. -/
def conditionsEach : List Expression → List Expression
  | [] => []
  | expression :: rest => conditions expression ++ conditionsEach rest

end

/-- What is wrong with a condition itself, as opposed to the conditions that it combines. -/
def complaint? : Expression → Option ExpressionError
  | .constant _ => some (.notBoolean "Constant")
  | .property _ => some (.notBoolean "Property")
  | .missing => some (.notBoolean "NoneType")
  | .operation (.compare method) operands =>
    match methodPredicate method operands with
    | .ok _ => none
    | .error error => some error
  | .operation operator [] => some (.noOperand operator.word)
  | .operation .negate (_ :: _ :: _) => some .severalNegated
  | .operation _ _ => none

/-- A condition with the operands that its operator asks for: any conditions but at least one to join,
one condition to negate, a property and a constant to compare, or a property to test for presence. -/
inductive IsSound : Expression → Prop where
  | joined (kind : Connective) (first : Expression) (others : List Expression) :
      IsSound (.operation (.combine kind) (first :: others))
  | negated (operand : Expression) : IsSound (.operation .negate [operand])
  | compared {method : Method} (takes : method.operator.takesValue = true) (name : String)
      (value : Value) : IsSound (.operation (.compare method) [.property name, .constant value])
  | tested {method : Method} (alone : method.operator.takesValue = false) (name : String) :
      IsSound (.operation (.compare method) [.property name])

/-- A test for presence that is given more than the property. -/
inductive HasSurplus : Expression → Prop where
  | tested {method : Method} (alone : method.operator.takesValue = false) (name : String)
      (first : Expression) (others : List Expression) :
      HasSurplus (.operation (.compare method) (.property name :: first :: others))

/-- A negation of several conditions, or a comparison of nothing. -/
inductive IsMiscounted : Expression → Prop where
  | negated (first second : Expression) (others : List Expression) :
      IsMiscounted (.operation .negate (first :: second :: others))
  | compared (method : Method) : IsMiscounted (.operation (.compare method) [])

/-! ### One condition -/

variable {condition expression : Expression} {operands : List Expression} {error : ExpressionError}

theorem methodPredicate_eq_ok_iff {method : Method} :
    (∃ predicate, methodPredicate method operands = .ok predicate) ↔
      (operation (.compare method) operands).IsSound ∨
        (operation (.compare method) operands).HasSurplus := by
  constructor
  · rintro ⟨predicate, made⟩
    unfold methodPredicate at made
    split at made
    · cases made
    · next name others =>
        split at made
        · next takes =>
            split at made
            · next value => exact .inl (.compared takes name value)
            · cases made
        · next alone =>
            rw [Bool.not_eq_true] at alone
            cases others with
            | nil => exact .inl (.tested alone name)
            | cons first others => exact .inr (.tested alone name first others)
    · cases made
  · rintro (sound | surplus)
    · cases sound with
      | compared takes name value => exact ⟨_, if_pos takes⟩
      | tested alone name => exact ⟨_, if_neg (Bool.not_eq_true _ ▸ alone)⟩
    · cases surplus with
      | tested alone name first others => exact ⟨_, if_neg (Bool.not_eq_true _ ▸ alone)⟩

/-- A method complains about the number of its operands only if there is none. -/
theorem eq_nil_of_isMiscount {method : Method} (failed : methodPredicate method operands = .error error)
    (miscounted : error.isMiscount = true) : operands = [] := by
  unfold methodPredicate at failed
  split at failed
  · rfl
  · split at failed
    · split at failed
      · cases failed
      · cases failed
        cases miscounted
    · cases failed
  · cases failed
    cases miscounted

/-- There is nothing to complain about in a sound condition, nor in a surplus. -/
theorem complaint?_eq_none_iff :
    condition.complaint? = none ↔ condition.IsSound ∨ condition.HasSurplus := by
  constructor
  · intro silent
    cases condition with
    | operation operator operands =>
        cases operator with
        | compare method =>
            apply methodPredicate_eq_ok_iff.1
            rw [complaint?] at silent
            split at silent
            · next predicate made => exact ⟨predicate, made⟩
            · cases silent
        | combine kind =>
            cases operands with
            | nil => cases silent
            | cons first others => exact .inl (.joined kind first others)
        | negate =>
            match operands with
            | [operand] => exact .inl (.negated operand)
            | [] | first :: second :: others => cases silent
    | _ => cases silent
  · intro accepted
    have compared {method : Method} {operands : List Expression}
        (well : (operation (.compare method) operands).IsSound ∨
          (operation (.compare method) operands).HasSurplus) :
        (operation (.compare method) operands).complaint? = none := by
      obtain ⟨predicate, made⟩ := methodPredicate_eq_ok_iff.2 well
      rw [complaint?, made]
    rcases accepted with sound | surplus
    · cases sound with
      | joined kind first others => rfl
      | negated operand => rfl
      | compared takes name value => exact compared (.inl (.compared takes name value))
      | tested alone name => exact compared (.inl (.tested alone name))
    · cases surplus with
      | tested alone name first others => exact compared (.inr (.tested alone name first others))

/-- A complaint is about the number of operands just if the condition is miscounted. -/
theorem isMiscount_iff_of_complaint? (found : condition.complaint? = some error) :
    error.isMiscount = true ↔ condition.IsMiscounted := by
  constructor
  · intro miscounted
    cases condition with
    | operation operator operands =>
        cases operator with
        | compare method =>
            rw [complaint?] at found
            split at found
            · cases found
            · next failed =>
                cases found
                cases eq_nil_of_isMiscount failed miscounted
                exact .compared method
        | combine kind =>
            cases operands with
            | nil =>
                cases found
                cases miscounted
            | cons first others => cases found
        | negate =>
            match operands with
            | [] =>
                cases found
                cases miscounted
            | [operand] => cases found
            | first :: second :: others => exact .negated first second others
    | _ =>
        cases found
        cases miscounted
  · intro miscounted
    cases miscounted <;>
      cases found
    · rfl
    · rfl

/-! ### All conditions -/

/-- An attempt whose errors are complaints succeeds just if there is no complaint. -/
theorem exists_eq_ok_iff_eq_none {ε α : Type} {result : Except ε α} {complaint : Option ε}
    (told : ∀ error, result = .error error ↔ complaint = some error) :
    (∃ value, result = .ok value) ↔ complaint = none := by
  cases result with
  | error error => simp [(told error).1 rfl]
  | ok value =>
      have silent : complaint = none := by
        rw [Option.eq_none_iff_forall_ne_some]
        intro error found
        cases (told error).2 found
      simp [silent]

/-- An operation on conditions that stand for predicates fails with the complaint about itself. -/
theorem combinedPredicate_eq_error_iff {operator : ExpressionOperator}
    (boolean : ∀ method, operator ≠ .compare method) {predicates : List Predicate}
    (made : toPredicates operands = .ok predicates) :
    combinedPredicate operator predicates = .error error ↔
      (operation operator operands).complaint? = some error := by
  cases operator with
  | compare method => exact absurd rfl (boolean method)
  | combine kind =>
      cases operands with
      | nil =>
          cases made
          simp [combinedPredicate, complaint?, Predicate.merge?]
      | cons first others =>
          obtain ⟨result, merged, -⟩ :=
            exists_merge?_of_toPredicates kind (List.cons_ne_nil first others) made
          rw [combinedPredicate_of_merge? merged]
          constructor <;> rintro ⟨⟩
  | negate =>
      cases representEach_of_toPredicates made with
      | nil => simp [combinedPredicate, complaint?]
      | cons first rest =>
          cases rest with
          | nil => constructor <;> rintro ⟨⟩
          | cons second others => simp [combinedPredicate, complaint?]

mutual

/-- An expression fails with the first complaint about its conditions. -/
theorem toPredicate_eq_error_iff {expression : Expression} {error : ExpressionError} :
    expression.toPredicate = .error error ↔
      expression.conditions.findSome? complaint? = some error := by
  cases expression with
  | operation operator operands =>
      by_cases boolean : ∀ method, operator ≠ .compare method
      · rw [toPredicate_operation boolean, conditions.eq_2 operator operands boolean,
          List.findSome?_append, List.findSome?_singleton]
        have each error := @toPredicates_eq_error_iff operands error
        cases made : toPredicates operands with
        | error first =>
            -- A complaint about an operand comes before any about the operation.
            rw [(each first).1 made]
            simp [Except.bind]
        | ok predicates =>
            rw [(exists_eq_ok_iff_eq_none each).1 ⟨predicates, made⟩]
            exact combinedPredicate_eq_error_iff boolean made
      · simp only [not_forall, not_not] at boolean
        obtain ⟨method, rfl⟩ := boolean
        rw [toPredicate, conditions]
        simp only [List.findSome?_cons, complaint?]
        cases methodPredicate method operands <;> simp
  | _ => simp [toPredicate, conditions, complaint?]

theorem toPredicates_eq_error_iff {expressions : List Expression} {error : ExpressionError} :
    toPredicates expressions = .error error ↔
      (conditionsEach expressions).findSome? complaint? = some error := by
  cases expressions with
  | nil => constructor <;> rintro ⟨⟩
  | cons expression rest =>
      rw [toPredicates_cons, conditionsEach, List.findSome?_append]
      have one error := @toPredicate_eq_error_iff expression error
      cases made : expression.toPredicate with
      | error first =>
          rw [(one first).1 made]
          simp [Except.bind]
      | ok predicate =>
          rw [(exists_eq_ok_iff_eq_none one).1 ⟨predicate, made⟩, Option.none_or,
            ← toPredicates_eq_error_iff]
          exact map_eq_error_iff

end

/-- An expression stands for a predicate just if each of its conditions is sound or a test for presence
with a surplus.  Otherwise it fails with the complaint about the first other condition, which blames
the number of operands just if that condition is miscounted. -/
theorem toPredicate_judged (expression : Expression) :
    ((∃ predicate, expression.toPredicate = .ok predicate) ↔
      ∀ condition ∈ expression.conditions, condition.IsSound ∨ condition.HasSurplus) ∧
    ∀ error, expression.toPredicate = .error error ↔
      ∃ before culprit after, expression.conditions = before ++ culprit :: after ∧
        (∀ condition ∈ before, condition.IsSound ∨ condition.HasSurplus) ∧
        culprit.complaint? = some error ∧ (error.isMiscount = true ↔ culprit.IsMiscounted) := by
  constructor
  · rw [exists_eq_ok_iff_eq_none fun error => toPredicate_eq_error_iff,
      List.findSome?_eq_none_iff]
    simp only [complaint?_eq_none_iff]
  · intro error
    rw [toPredicate_eq_error_iff, List.findSome?_eq_some_iff]
    simp only [complaint?_eq_none_iff]
    constructor
    · rintro ⟨before, culprit, after, split, found, accepted⟩
      exact ⟨before, culprit, after, split, accepted, found, isMiscount_iff_of_complaint? found⟩
    · rintro ⟨before, culprit, after, split, accepted, found, -⟩
      exact ⟨before, culprit, after, split, found, accepted⟩

/-- Whether some property is one. -/
def isOne (property : String) : Expression := .apply .equals (.property property) [.int 1]

/-- A test for presence that is given a constant as well. -/
def overfull : Expression := .apply .absent (.property "a") [.int 1]

/-- Several negated conditions and a comparison of nothing are miscounted, and a test for presence that
is not sound stands for a predicate. -/
theorem toPredicate_misjudged :
    (operation .negate [isOne "a", isOne "a"]).toPredicate = .error .severalNegated ∧
    (operation (.compare .equals) []).toPredicate = .error .noSubject ∧
    overfull ∈ overfull.conditions ∧ ¬overfull.IsSound ∧
    overfull.toPredicate = .ok (.comparison (.plain "a") .absent .null) := by
  refine ⟨rfl, rfl, by simp [overfull, apply, conditions], ?_, rfl⟩
  intro sound
  cases sound with
  | compared takes name value => cases takes

end DirectoryQuery.Expression
