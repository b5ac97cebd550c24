/-
Module: DirectoryQuery.Expression.Predicate
Purpose: The predicates that well-formed expressions stand for.
Main exports:
  ExpressionError, ExpressionError.message, Expression.toPredicate
-/
import DirectoryQuery.Expression.Basic

namespace DirectoryQuery

/-- Why an expression stands for no predicate. -/
inductive ExpressionError where
  /-- An expression of the named kind stands where a condition is needed. -/
  | notBoolean (kind : String)
  | noOperand (word : String)
  | severalNegated
  | noSubject
  | notAProperty (word : String)
  | notOneValue (word : String)
deriving Repr, DecidableEq

namespace ExpressionError

/-- The wording of the complaint. -/
def message : ExpressionError → String
  | .notBoolean kind => "Expected a boolean expression, got " ++ kind
  | .noOperand word => "'" ++ word ++ "' needs at least one operand"
  | .severalNegated => "too many values to unpack (expected 1)"
  | .noSubject => "not enough values to unpack (expected at least 1, got 0)"
  | .notAProperty word => "'" ++ word ++ "' must be applied to a property"
  | .notOneValue word => "'" ++ word ++ "' takes exactly one value"

/-- Whether the number of operands is at fault, as opposed to their kind. -/
def isMiscount : ExpressionError → Bool
  | .severalNegated | .noSubject => true
  | _ => false

end ExpressionError

namespace Expression

/-- The comparison, negated where the method says so, of a property with a value. -/
def comparison (method : Method) (property : String) (value : Value) : Predicate :=
  let positive := Predicate.comparison (.plain property) method.operator value
  if method.isNegated then .negation positive else positive

/-- The predicate of a method applied to operands: a property and the value to compare with.  Tests
for presence ignore further operands. -/
def methodPredicate (method : Method) (operands : List Expression) :
    Except ExpressionError Predicate :=
  match operands with
  | [] => .error .noSubject
  | .property name :: others =>
    if method.operator.takesValue then
      match others with
      | [.constant value] => .ok (comparison method name value)
      | _ => .error (.notOneValue method.word)
    else
      .ok (comparison method name .null)
  | _ => .error (.notAProperty method.word)

/-- The predicate of an operator that combines predicates. -/
def combinedPredicate (operator : ExpressionOperator) (operands : List Predicate) :
    Except ExpressionError Predicate :=
  match operator with
  | .combine kind =>
    match Predicate.merge? kind operands with
    | some predicate => .ok predicate
    | none => .error (.noOperand operator.word)
  | _ =>
    match operands with
    | [] => .error (.noOperand operator.word)
    | [operand] => .ok (.negation operand)
    | _ => .error .severalNegated

mutual

/-- The predicate that an expression stands for.  Operands of the same connective are spliced into
one composite. -/
def toPredicate : Expression → Except ExpressionError Predicate
  | .constant _ => .error (.notBoolean "Constant")
  | .property _ => .error (.notBoolean "Property")
  | .missing => .error (.notBoolean "NoneType")
  | .operation operator operands =>
    match operator with
    | .compare method => methodPredicate method operands
    | operator =>
      match toPredicates operands with
      | .error error => .error error
      | .ok predicates => combinedPredicate operator predicates

/-- The predicates that expressions stand for. -/
def toPredicates : List Expression → Except ExpressionError (List Predicate)
  | [] => .ok []
  | expression :: rest =>
    match toPredicate expression with
    | .error error => .error error
    | .ok predicate =>
      match toPredicates rest with
      | .error error => .error error
      | .ok predicates => .ok (predicate :: predicates)

end

end Expression

end DirectoryQuery
