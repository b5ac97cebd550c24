/-
Module: DirectoryQuery.Search.Assembly
Purpose: Queries from a filter, an entity and the wishes of a caller.
Main exports:
  Limit, AssemblyError, AssemblyError.report, Query.assemble, assemblyWarnings
-/
import DirectoryQuery.Search.Basic

namespace DirectoryQuery

/-- The limits that a search may have. -/
inductive Limit where
  | count
  | time
deriving Repr, DecidableEq

/-- The word for a limit. -/
def Limit.word : Limit → String
  | .count => "count_limit"
  | .time => "time_limit"

/-- Why no query comes about. -/
inductive AssemblyError where
  | unsupported (feature : Feature)
  | invalidBase (problem : BaseProblem)
  | composition (error : CompositionError)
  | negativeLimit (limit : Limit) (value : Int)
deriving Repr, DecidableEq

/-- What a caller is told.  A negative limit is written out however many digits it has: the limit on
written numbers is left out here. -/
def AssemblyError.report : AssemblyError → Report
  | .unsupported feature =>
    .unsupported feature.word (some "directory searches cannot page or sort results")
  | .invalidBase problem => .uncompilable problem.message none
  | .composition error => error.report
  | .negativeLimit limit value =>
    .uncompilable ("'" ++ limit.word ++ "' must not be negative, got " ++ toString value) none

/-- A limit as a natural number. -/
def readLimit (limit : Limit) (value : Int) : Except AssemblyError Nat :=
  if value < 0 then .error (.negativeLimit limit value) else .ok value.toNat

/-- Where a search starts from: the base of the caller, else that of the entity, else the default.
-/
def selectedBase (entity : Entity) (parameters : SearchParameters) (defaults : SearchDefaults) :
    SearchBase :=
  match parameters.base with
  | some base => base
  | none => if entity.base.isRoot then .plain defaults.base else .name entity.base

/-- The base of a search: the selected one, or the place below it that values of name components
lead to. -/
def searchBase (entity : Entity) (parameters : SearchParameters) (defaults : SearchDefaults) :
    Except AssemblyError DistinguishedName :=
  match (selectedBase entity parameters defaults).resolve with
  | .error problem => .error (.invalidBase problem)
  | .ok base =>
    if parameters.componentValues.isEmpty then .ok base
    else (entity.scopedBase parameters.componentValues (some (.name base))).mapError .composition

/-- The first requested feature that stands in the way of a search. -/
def rejectedFeature? (parameters : SearchParameters) (defaults : SearchDefaults) :
    Option Feature :=
  match defaults.policy with
  | .reject => parameters.requestedFeatures.head?
  | .ignore => none

/-- The query for the entries of an entity that a filter selects. -/
def Query.assemble (entity : Entity) (filter : String) (parameters : SearchParameters)
    (defaults : SearchDefaults) : Except AssemblyError Query :=
  match rejectedFeature? parameters defaults with
  | some feature => .error (.unsupported feature)
  | none => do
    let base ← searchBase entity parameters defaults
    let countLimit ← readLimit .count (parameters.countLimit.getD defaults.countLimit)
    let timeLimit ← readLimit .time (parameters.timeLimit.getD defaults.timeLimit)
    return {
      base := base
      filter := filter
      scope := parameters.scope.getD defaults.scope
      attributes := parameters.attributes.getD entity.persistedAttributes
      countLimit := countLimit
      timeLimit := timeLimit }

/-- The order of words. -/
def wordBefore (a b : String) : Bool := decide (a ≤ b)

/-- What is to be said about requested features that are ignored.  It is said also if no query comes
about for another reason. -/
def assemblyWarnings (entity : Entity) (parameters : SearchParameters)
    (defaults : SearchDefaults) : List String :=
  match defaults.policy, parameters.requestedFeatures with
  | .ignore, feature :: others =>
    let words := ((feature :: others).map Feature.word).mergeSort wordBefore
    ["Ignoring unsupported query parameters for " ++ entity.name ++ ": " ++
      ", ".intercalate words]
  | _, _ => []

end DirectoryQuery
