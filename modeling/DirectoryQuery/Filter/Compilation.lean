/-
Module: DirectoryQuery.Filter.Compilation
Purpose: The filter that finds the entries of an entity for which a predicate holds.
Main exports:
  FilterError, FilterError.report?, CompilationError, CompilationError.report?,
  Predicate.filter, Entity.filterFor
-/
import DirectoryQuery.Entity.Basic
import DirectoryQuery.Filter.Basic
import DirectoryQuery.Predicate.Binding
import DirectoryQuery.Text.Quoted

namespace DirectoryQuery

open Text

/-- Why a predicate cannot be put into a filter. -/
inductive FilterError where
  | noSuchProperty (entity : String) (property : Label)
  | notQueryable (property : Label) (reason : Unqueryable)
  | unbound (property : Label) (parameter : String)
  | badValue (property : Label) (error : AssertionError)
  | unsupportedOperator (property : Label) (symbol : String)
  | meaninglessNode
deriving Repr, DecidableEq

/-- The word for the reason why a property cannot be queried. -/
def Unqueryable.word : Unqueryable → String
  | .identifier => "identifier"
  | .transient => "transient"

namespace FilterError

/-- The wording of the complaint. -/
def message : FilterError → String
  | .noSuchProperty entity property =>
    "'" ++ entity ++ "' has no property '" ++ property.reading ++ "'"
  | .notQueryable property reason =>
    "Property '" ++ property.reading ++ "' is " ++ reason.word ++ " and cannot be filtered on"
  | .unbound _ parameter => "Parameter '" ++ parameter ++ "' is not bound"
  | .badValue _ error => error.message
  | .unsupportedOperator _ symbol => "Unsupported operator: " ++ quoted symbol
  | .meaninglessNode => meaninglessNodeMessage

/-- The property to blame. -/
def property? : FilterError → Option Label
  | .noSuchProperty _ property => some property
  | .notQueryable property _ => some property
  | .unbound property _ => some property
  | .badValue property _ => some property
  | .unsupportedOperator property _ => some property
  | .meaninglessNode => none

/-- What a caller is told.  A moment beyond the calendar and a number with too many digits are no
complaint about the predicate. -/
def report? : FilterError → Option Report
  | .badValue property error =>
    if error.isLimit then none else some (.uncompilable error.message (some property))
  | error => some (.uncompilable error.message error.property?)

end FilterError

/-- Why arguments and a predicate make up no filter. -/
inductive CompilationError where
  | binding (failure : BindingFailure)
  | condition (error : FilterError)
deriving Repr, DecidableEq

/-- What a caller is told, if there is a complaint about the arguments or the predicate. -/
def CompilationError.report? : CompilationError → Option Report
  | .binding failure => failure.report?
  | .condition error => error.report?

namespace Predicate

/-- The attribute that holds a property which may stand in a filter. -/
def filterableAttribute (entity : Entity) (property : Label) : Except FilterError Attribute :=
  match entity.get? property.text with
  | none => .error (.noSuchProperty entity.name property)
  | some found =>
    match found.unqueryable? with
    | some reason => .error (.notQueryable property reason)
    | none => .ok found

theorem filterableAttribute_eq_ok_iff {entity : Entity} {property : Label} {found : Attribute} :
    filterableAttribute entity property = .ok found ↔
      entity.get? property.text = some found ∧ found.isQueryable = true := by
  unfold filterableAttribute
  cases entity.get? property.text with
  | none => simp
  | some known =>
    dsimp only
    cases blocked : known.unqueryable? with
    | none =>
      have queryable := Attribute.unqueryable?_eq_none_iff.1 blocked
      constructor
      · rintro ⟨⟩
        exact ⟨rfl, queryable⟩
      · rintro ⟨⟨⟩, -⟩
        rfl
    | some reason =>
      constructor
      · rintro ⟨⟩
      · rintro ⟨⟨⟩, queryable⟩
        rw [Attribute.unqueryable?_eq_none_iff.2 queryable] at blocked
        cases blocked

/-- The test that compares an attribute with a part of a text. -/
def substringTest (attributeName : String) (property : Label) (operator : Operator)
    (value : Assertion) : Except FilterError Filter :=
  match operator with
  | .like => .ok (.equality attributeName value)
  | .startingWith => .ok (.startingWith attributeName value)
  | .endingWith => .ok (.endingWith attributeName value)
  | .containing => .ok (.containing attributeName value)
  | operator => .error (.unsupportedOperator property operator.symbol)

/-- The test that compares an attribute with a value.  Only a text is taken for a pattern. -/
def valueTest (attributeName : String) (property : Label) (operator : Operator) (value : Value) :
    Except FilterError Filter :=
  let whole := value.assertion.mapError (.badValue property)
  match operator, value.asText? with
  | .equals, _ => whole.map (.equality attributeName)
  | .atMost, _ => whole.map (.atMost attributeName)
  | .atLeast, _ => whole.map (.atLeast attributeName)
  | .like, some pattern => .ok (.like attributeName pattern.toList)
  | operator, _ =>
    match value.substringAssertion with
    | .error error => .error (.badValue property error)
    | .ok part => substringTest attributeName property operator part

/-- The test that a comparison stands for. -/
def comparisonFilter (entity : Entity) (property : Label) (operator : Operator) (value : Value) :
    Except FilterError Filter :=
  match filterableAttribute entity property with
  | .error error => .error error
  | .ok found =>
    match operator with
    | .present => .ok (.present found.attributeName)
    | .absent => .ok (.negation (.present found.attributeName))
    | operator =>
      match value.parameter? with
      | some placeholder => .error (.unbound property placeholder.name)
      | none => valueTest found.attributeName property operator value

mutual

/-- The filter that a predicate over an entity stands for. -/
def filter (entity : Entity) : Predicate → Except FilterError Filter
  | .comparison property operator value => comparisonFilter entity property operator value
  | .negation operand => (filter entity operand).map .negation
  | .composite kind first others =>
    match filter entity first with
    | .error error => .error error
    | .ok first =>
      match filters entity others with
      | .error error => .error error
      | .ok others => .ok (.composite kind (first :: others))
  | .bare => .error .meaninglessNode

/-- The filters that predicates stand for. -/
def filters (entity : Entity) : List Predicate → Except FilterError (List Filter)
  | [] => .ok []
  | predicate :: rest =>
    match filter entity predicate with
    | .error error => .error error
    | .ok filter =>
      match filters entity rest with
      | .error error => .error error
      | .ok others => .ok (filter :: others)

end

/-- The predicates that hold together just if a predicate holds: the operands of a conjunction, or
the predicate itself. -/
def conjuncts (predicate : Predicate) : List Predicate := predicate.operands .conjunction

end Predicate

namespace Entity

/-- The attribute that holds the object classes of an entry. -/
def objectClassAttribute : String := "objectclass"

/-- The tests for the object classes of an entity. -/
def classTests (entity : Entity) : List Filter :=
  entity.objectClasses.map fun name => .equality objectClassAttribute (.text name.toList)

/-- The filter that finds the entries of an entity for which a predicate holds, after arguments have
taken the place of its placeholders.  Without a predicate all entries are found. -/
def filterFor (entity : Entity) (predicate : Option Predicate) (arguments : List Value)
    (keywords : List (String × Value)) : Except CompilationError Filter :=
  match predicate with
  | none =>
    if arguments = [] ∧ keywords = [] then .ok (.composite .conjunction entity.classTests)
    else .error (.binding (.refused .noneTaken))
  | some predicate =>
    match predicate.bind arguments keywords with
    | .error failure => .error (.binding failure)
    | .ok bound =>
      match Predicate.filters entity bound.conjuncts with
      | .error error => .error (.condition error)
      | .ok branches => .ok (.composite .conjunction (entity.classTests ++ branches))

end Entity

end DirectoryQuery
