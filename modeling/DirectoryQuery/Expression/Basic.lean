/-
Module: DirectoryQuery.Expression.Basic
Purpose: Conditions as a program puts them together: methods on properties, joined and negated.
Main exports:
  Method, ExpressionOperator, Expression, PathError, PathError.message, Entity.path, Entity.member
-/
import DirectoryQuery.Entity.Basic
import DirectoryQuery.Predicate.Basic
import DirectoryQuery.Report

namespace DirectoryQuery

/-- The comparisons that a property offers. -/
inductive Method where
  | equals
  | differs
  | atMost
  | atLeast
  | like
  | notLike
  | startingWith
  | endingWith
  | containing
  | absent
  | present
deriving Repr, DecidableEq, Inhabited

namespace Method

/-- All methods. -/
def all : List Method :=
  [.equals, .differs, .atMost, .atLeast, .like, .notLike, .startingWith, .endingWith, .containing,
    .absent, .present]

/-- The word for a method. -/
def word : Method → String
  | .equals => "eq"
  | .differs => "ne"
  | .atMost => "loe"
  | .atLeast => "goe"
  | .like => "like"
  | .notLike => "not_like"
  | .startingWith => "starts_with"
  | .endingWith => "ends_with"
  | .containing => "contains"
  | .absent => "is_null"
  | .present => "is_not_null"

/-- The method with a word.  Two methods have a second, shorter word. -/
def ofWord? (text : String) : Option Method :=
  if text = "le" then some .atMost
  else if text = "ge" then some .atLeast
  else all.find? (·.word == text)

/-- The operator of the comparison that a method makes. -/
def operator : Method → Operator
  | .equals | .differs => .equals
  | .atMost => .atMost
  | .atLeast => .atLeast
  | .like => .like
  | .notLike | .startingWith => .startingWith
  | .endingWith => .endingWith
  | .containing => .containing
  | .absent => .absent
  | .present => .present

/-- Whether a method negates its comparison.  The negation of `like` is that of a match at the
start, not that of a pattern. -/
def isNegated : Method → Bool
  | .differs | .notLike => true
  | _ => false

theorem ofWord?_word (method : Method) : ofWord? method.word = some method := by
  cases method <;> decide

end Method

/-- What an operation does with its operands. -/
inductive ExpressionOperator where
  | compare (method : Method)
  | combine (kind : Connective)
  | negate
deriving Repr, DecidableEq

/-- The word for an operator. -/
def ExpressionOperator.word : ExpressionOperator → String
  | .compare method => method.word
  | .combine .conjunction => "and"
  | .combine .disjunction => "or"
  | .negate => "not"

/-- An expression.  It need not be well formed: any operator may be applied to any operands, and an
operand may be missing. -/
inductive Expression where
  | constant (value : Value)
  | property (name : String)
  | operation (operator : ExpressionOperator) (operands : List Expression)
  | missing
deriving Inhabited

namespace Expression

/-- A method applied to an expression and values. -/
def apply (method : Method) (target : Expression) (values : List Value) : Expression :=
  .operation (.compare method) (target :: values.map .constant)

/-- Expressions joined by a connective, the first of them with all others. -/
def combined (kind : Connective) (first : Expression) (others : List Expression) : Expression :=
  .operation (.combine kind) (first :: others)

/-- Expressions joined one after the other, two at a time. -/
def joinedInTurn (kind : Connective) (first : Expression) (others : List Expression) : Expression :=
  others.foldl (fun joined next => combined kind joined [next]) first

/-- The negation of an expression. -/
def negated (expression : Expression) : Expression := .operation .negate [expression]

end Expression

/-! ### Properties of an entity -/

/-- Why a name leads to no property. -/
inductive PathError where
  /-- Names that start with an underscore are kept free. -/
  | reserved (name : String)
  | notQueryable (entity name : String) (available : List String)
deriving Repr, DecidableEq

/-- The wording of the complaint. -/
def PathError.message : PathError → String
  | .reserved name => name
  | .notQueryable entity name available =>
    (Report.ofUnreadable ("'" ++ entity ++ "' has no queryable property '" ++ name ++ "'") entity
      (some name) available).text

namespace Entity

/-- The property with a name, if it may stand in a filter. -/
def path (entity : Entity) (name : String) : Except PathError Expression :=
  if name ∈ entity.queryableProperties then .ok (.property name)
  else .error (.notQueryable entity.name name entity.queryableProperties)

/-- The property with a name that is no reserved one. -/
def member (entity : Entity) (name : String) : Except PathError Expression :=
  if name.toList.head? = some '_' then .error (.reserved name) else entity.path name

/-- A name leads to a property just if the property may stand in a filter. -/
theorem path_eq_ok_iff {entity : Entity} {name : String} {expression : Expression} :
    entity.path name = .ok expression ↔
      name ∈ entity.queryableProperties ∧ expression = .property name := by
  unfold path
  split
  · next known => simp [known, eq_comm]
  · next unknown => simp [unknown]

end Entity

end DirectoryQuery
