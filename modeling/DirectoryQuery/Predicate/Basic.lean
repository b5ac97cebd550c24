/-
Module: DirectoryQuery.Predicate.Basic
Purpose: Predicates over the properties of an entry.
Main exports:
  Operator, Connective, Predicate, Predicate.operands, Predicate.compose?, Predicate.join,
  Predicate.merge?, Predicate.walk, Predicate.parameters
-/
import DirectoryQuery.Value.Label

namespace DirectoryQuery

/-- The ways of comparing a property with a value.  An unrecognized one is kept so that it can be
complained about. -/
inductive Operator where
  | equals
  | atMost
  | atLeast
  | like
  | startingWith
  | endingWith
  | containing
  | absent
  | present
  | unrecognized (symbol : String)
deriving Repr, DecidableEq, Inhabited

namespace Operator

/-- The recognized operators. -/
def recognized : List Operator :=
  [.equals, .atMost, .atLeast, .like, .startingWith, .endingWith, .containing, .absent, .present]

/-- The symbol of an operator. -/
def symbol : Operator → String
  | .equals => "="
  | .atMost => "<="
  | .atLeast => ">="
  | .like => "like"
  | .startingWith => "startswith"
  | .endingWith => "endswith"
  | .containing => "contains"
  | .absent => "is_null"
  | .present => "is_not_null"
  | .unrecognized symbol => symbol

/-- The recognized operator with a symbol. -/
def ofSymbol? (text : String) : Option Operator := recognized.find? (·.symbol == text)

/-- The operator with a symbol, recognized or not. -/
def ofSymbol (text : String) : Operator := (ofSymbol? text).getD (.unrecognized text)

/-- Whether an operator is one of the recognized ones. -/
def isRecognized : Operator → Bool
  | .unrecognized _ => false
  | _ => true

/-- Whether an operator compares with a value.  The tests for presence do not. -/
def takesValue : Operator → Bool
  | .absent | .present => false
  | _ => true

theorem ofSymbol?_symbol {operator : Operator} (known : operator.isRecognized = true) :
    ofSymbol? operator.symbol = some operator := by
  cases operator with
  | unrecognized symbol => simp [isRecognized] at known
  | _ => decide

end Operator

/-- The two ways of combining predicates. -/
inductive Connective where
  | conjunction
  | disjunction
deriving Repr, DecidableEq, Inhabited

/-- A predicate.  A comparison names its property by a label.  A composite has at least one
operand.  A `bare` node carries no condition and has no meaning; it can be built but neither
written nor compiled. -/
inductive Predicate where
  | comparison (property : Label) (operator : Operator) (value : Value)
  | negation (operand : Predicate)
  | composite (kind : Connective) (first : Predicate) (others : List Predicate)
  | bare
deriving Inhabited

namespace Predicate

/-- What a predicate contributes to a composite of a kind: the operands of a composite of the same
kind, else the predicate itself. -/
def operands (kind : Connective) : Predicate → List Predicate
  | .composite other first others =>
    if other = kind then first :: others else [.composite other first others]
  | predicate => [predicate]

/-- The composite of given operands, taken as they are. -/
def compose? (kind : Connective) : List Predicate → Option Predicate
  | [] => none
  | first :: others => some (.composite kind first others)

/-- Two predicates joined to a flat composite. -/
def join (kind : Connective) (left right : Predicate) : Predicate :=
  match left with
  | .composite other first others =>
    if other = kind then .composite kind first (others ++ right.operands kind)
    else .composite kind left (right.operands kind)
  | left => .composite kind left (right.operands kind)

/-- Predicates merged to a flat composite.  A lone operand stays as it is, and nothing comes of no
predicates. -/
def merge? (kind : Connective) (predicates : List Predicate) : Option Predicate :=
  match predicates.flatMap (operands kind) with
  | [] => none
  | [single] => some single
  | first :: others => some (.composite kind first others)

theorem operands_ne_nil (kind : Connective) (predicate : Predicate) :
    predicate.operands kind ≠ [] := by
  unfold operands
  split
  · split <;> simp
  · simp

/-- A joined predicate is the composite of what its two sides contribute. -/
theorem compose?_operands (kind : Connective) (left right : Predicate) :
    compose? kind (left.operands kind ++ right.operands kind) = some (join kind left right) := by
  cases left with
  | composite other first others =>
    by_cases same : other = kind <;> simp [operands, join, same, compose?]
  | _ => simp [operands, join, compose?]

/-! ### Traversal -/

mutual

/-- A predicate and all its parts, each before its own parts and in their order. -/
def walk : Predicate → List Predicate
  | .comparison property operator value => [.comparison property operator value]
  | .negation operand => .negation operand :: walk operand
  | .composite kind first others => .composite kind first others :: (walk first ++ walkAll others)
  | .bare => [.bare]

/-- Predicates and all their parts. -/
def walkAll : List Predicate → List Predicate
  | [] => []
  | predicate :: rest => walk predicate ++ walkAll rest

end

mutual

/-- A predicate whose comparisons name their properties by plain texts. -/
def plainlyNamed : Predicate → Predicate
  | .comparison property operator value => .comparison (.plain property.text) operator value
  | .negation operand => .negation (plainlyNamed operand)
  | .composite kind first others =>
    .composite kind (plainlyNamed first) (plainlyNamedAll others)
  | .bare => .bare

/-- Predicates whose comparisons name their properties by plain texts. -/
def plainlyNamedAll : List Predicate → List Predicate
  | [] => []
  | predicate :: rest => plainlyNamed predicate :: plainlyNamedAll rest

end

/-- The placeholder of a comparison. -/
def placeholder? : Predicate → Option Parameter
  | .comparison _ _ value => value.parameter?
  | _ => none

/-- The placeholders of a predicate in the order of its comparisons. -/
def placeholders (predicate : Predicate) : List Parameter :=
  predicate.walk.filterMap placeholder?

/-- The order of placeholders. -/
def rankBefore (a b : Parameter) : Bool := decide (a.index ≤ b.index)

/-- The placeholders of a predicate in the order of their arguments. -/
def parameters (predicate : Predicate) : List Parameter :=
  predicate.placeholders.mergeSort rankBefore

end Predicate

end DirectoryQuery
