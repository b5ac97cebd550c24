/-
Module: DirectoryQuery.Predicate.Binding
Purpose: Putting arguments in the place of placeholders.
Main exports:
  BindingError, BindingFailure, BindingError.report, BindingFailure.report?, Bindings,
  Predicate.bindings, Predicate.substitute, Predicate.bind
-/
import DirectoryQuery.Predicate.Basic
import DirectoryQuery.Report

namespace DirectoryQuery

/-- Why arguments do not fit the placeholders of a predicate. -/
inductive BindingError where
  | noneTaken
  | tooMany (taken given : Nat)
  | unknownKeyword (name : String)
  | ambiguousKeyword (name : String)
  | givenTwice (name : String)
  | missing (first : String) (others : List String)
deriving Repr, DecidableEq

/-- How binding can fail: the arguments do not fit, or a part of the predicate has no meaning. -/
inductive BindingFailure where
  | refused (error : BindingError)
  | meaninglessNode
deriving Repr, DecidableEq

namespace BindingError

/-- The wording of the complaint. -/
def message : BindingError → String
  | .noneTaken => "Query takes no arguments"
  | .tooMany taken given =>
    "Query takes " ++ toString taken ++ " argument(s), got " ++ toString given
  | .unknownKeyword name => "Keyword argument '" ++ name ++ "' is not a query parameter"
  | .ambiguousKeyword name => "Keyword argument '" ++ name ++ "' is ambiguous"
  | .givenTwice name => "Argument '" ++ name ++ "' given twice"
  | .missing first others => "Missing argument(s) for " ++ ", ".intercalate (first :: others)

/-- The placeholder to blame. -/
def property? : BindingError → Option String
  | .noneTaken => none
  | .tooMany _ _ => none
  | .unknownKeyword name => some name
  | .ambiguousKeyword name => some name
  | .givenTwice name => some name
  | .missing first _ => some first

/-- What a caller is told. -/
def report (error : BindingError) : Report :=
  .uncompilable error.message (error.property?.map .plain)

end BindingError

/-- What a caller is told.  A node without a meaning is no complaint about the arguments. -/
def BindingFailure.report? : BindingFailure → Option Report
  | .refused error => some error.report
  | .meaninglessNode => none

/-- The wording of the complaint about a node without a meaning. -/
def meaninglessNodeMessage : String := "Unknown predicate node: PredicateNode"

/-- Arguments by the index of the placeholders that they are for. -/
abbrev Bindings := List (Int × Value)

/-- Sets the argument for an index. -/
def Bindings.insert (bindings : Bindings) (index : Int) (value : Value) : Bindings :=
  (index, value) :: bindings

/-- The argument for an index, the one set last. -/
def Bindings.value? (bindings : Bindings) (index : Int) : Option Value := bindings.lookup index

theorem Bindings.value?_insert (bindings : Bindings) (index other : Int) (value : Value) :
    (bindings.insert index value).value? other =
      if other = index then some value else bindings.value? other := by
  unfold insert value?
  rw [List.lookup_cons]
  by_cases same : other = index
  · simp [same]
  · simp [same, beq_eq_false_iff_ne.2 same]

namespace Predicate

/-- Binds arguments by position: the first to the placeholder of the least index, and so on. -/
def bindPositions (placeholders : List Parameter) (arguments : List Value) : Bindings :=
  (placeholders.zip arguments).foldl (fun bindings (p, value) => bindings.insert p.index value) []

/-- Binds one argument by name. -/
def bindKeyword (placeholders : List Parameter) (bindings : Bindings) (name : String)
    (value : Value) : Except BindingError Bindings :=
  match placeholders.filter (·.name == name) with
  | [] => .error (.unknownKeyword name)
  | [p] =>
    if (bindings.value? p.index).isSome then .error (.givenTwice name)
    else .ok (bindings.insert p.index value)
  | _ => .error (.ambiguousKeyword name)

/-- Binds arguments by name, one after the other. -/
def bindKeywords (placeholders : List Parameter) :
    Bindings → List (String × Value) → Except BindingError Bindings
  | bindings, [] => .ok bindings
  | bindings, (name, value) :: rest =>
    match bindKeyword placeholders bindings name value with
    | .ok bound => bindKeywords placeholders bound rest
    | .error error => .error error

/-- The arguments for all placeholders, given in the order of their arguments. -/
def bindings (placeholders : List Parameter) (arguments : List Value)
    (keywords : List (String × Value)) : Except BindingError Bindings :=
  if placeholders.length < arguments.length then
    .error (.tooMany placeholders.length arguments.length)
  else
    match bindKeywords placeholders (bindPositions placeholders arguments) keywords with
    | .error error => .error error
    | .ok bound =>
      match placeholders.filter (fun p => (bound.value? p.index).isNone) with
      | [] => .ok bound
      | first :: others => .error (.missing first.name (others.map (·.name)))

mutual

/-- A predicate with bound arguments in the place of its placeholders; nothing if a part of it has
no meaning. -/
def substitute (bound : Bindings) : Predicate → Option Predicate
  | .comparison property operator value =>
    match value with
    | .parameter p => some (.comparison property operator ((bound.value? p.index).getD value))
    | value => some (.comparison property operator value)
  | .negation operand => (substitute bound operand).map .negation
  | .composite kind first others => do
    let first ← substitute bound first
    let others ← substituteAll bound others
    return .composite kind first others
  | .bare => none

/-- Predicates with bound arguments in the place of their placeholders. -/
def substituteAll (bound : Bindings) : List Predicate → Option (List Predicate)
  | [] => some []
  | predicate :: rest => do
    let predicate ← substitute bound predicate
    let rest ← substituteAll bound rest
    return predicate :: rest

end

/-- A predicate with arguments in the place of its placeholders.  Arguments without a name go to the
placeholders in the order of their indices, the others to the placeholder of their name. -/
def bind (predicate : Predicate) (arguments : List Value) (keywords : List (String × Value)) :
    Except BindingFailure Predicate :=
  match predicate.parameters with
  | [] =>
    if arguments = [] ∧ keywords = [] then .ok predicate else .error (.refused .noneTaken)
  | placeholders =>
    match bindings placeholders arguments keywords with
    | .error error => .error (.refused error)
    | .ok bound =>
      match predicate.substitute bound with
      | some result => .ok result
      | none => .error .meaninglessNode

end Predicate

end DirectoryQuery
