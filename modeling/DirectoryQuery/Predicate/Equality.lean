/-
Module: DirectoryQuery.Predicate.Equality
Purpose: Predicates can be compared for equality.
Main exports:
  Predicate.same, Predicate.same_iff_eq
-/
import DirectoryQuery.Predicate.Basic
import DirectoryQuery.Value.Equality

namespace DirectoryQuery.Predicate

mutual

/-- Equality of predicates, part by part. -/
def same : Predicate → Predicate → Bool
  | .comparison property operator value, .comparison property' operator' value' =>
    decide (property = property') && decide (operator = operator') && decide (value = value')
  | .negation operand, .negation operand' => same operand operand'
  | .composite kind first others, .composite kind' first' others' =>
    decide (kind = kind') && same first first' && sameAll others others'
  | .bare, .bare => true
  | _, _ => false

/-- Equality of lists of predicates. -/
def sameAll : List Predicate → List Predicate → Bool
  | [], [] => true
  | a :: as, b :: bs => same a b && sameAll as bs
  | _, _ => false

end

mutual

theorem same_iff_eq (a b : Predicate) : same a b = true ↔ a = b := by
  cases a <;> cases b <;> simp [same, same_iff_eq, sameAll_iff_eq, and_assoc]

theorem sameAll_iff_eq (a b : List Predicate) : sameAll a b = true ↔ a = b := by
  cases a <;> cases b <;> simp [sameAll, same_iff_eq, sameAll_iff_eq]

end

/-- Predicates are equal just if they are the same part by part. -/
instance : DecidableEq Predicate := fun a b =>
  decidable_of_iff (same a b = true) (same_iff_eq a b)

end DirectoryQuery.Predicate
