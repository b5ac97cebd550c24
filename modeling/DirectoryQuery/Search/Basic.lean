/-
Module: DirectoryQuery.Search.Basic
Purpose: What a search is asked for, and the query that is handed to a directory.
Main exports:
  Scope, Feature, FeaturePolicy, SearchParameters, SearchDefaults, Query,
  SearchParameters.requestedFeatures
-/
import DirectoryQuery.Entity.Composition

namespace DirectoryQuery

/-- How far below its base a search reaches. -/
inductive Scope where
  | object
  | oneLevel
  | subtree
deriving Repr, DecidableEq, Inhabited

namespace Scope

/-- All scopes. -/
def all : List Scope := [.object, .oneLevel, .subtree]

/-- The word for a scope. -/
def word : Scope → String
  | .object => "base"
  | .oneLevel => "one"
  | .subtree => "sub"

/-- The scope with a word. -/
def ofWord? (text : String) : Option Scope := all.find? (·.word == text)

/-- The name that directory connections have for a scope. -/
def connectionName : Scope → String
  | .object => "BASE"
  | .oneLevel => "LEVEL"
  | .subtree => "SUBTREE"

theorem ofWord?_word (scope : Scope) : ofWord? scope.word = some scope := by
  cases scope <;> decide

end Scope

/-- Features of searches that directories do not have. -/
inductive Feature where
  | offset
  | page
  | pageSize
  | order
deriving Repr, DecidableEq

/-- The word for a feature. -/
def Feature.word : Feature → String
  | .offset => "offset"
  | .page => "page"
  | .pageSize => "page_size"
  | .order => "order_by"

/-- What becomes of a request for a feature that directories do not have. -/
inductive FeaturePolicy where
  | reject
  | ignore
deriving Repr, DecidableEq, Inhabited

/-- The wishes of a caller.  `componentValues` are values of name components that lead from the
base to a place below it. -/
structure SearchParameters where
  base : Option SearchBase := none
  componentValues : List (String × Value) := []
  scope : Option Scope := none
  attributes : Option (List String) := none
  countLimit : Option Int := none
  timeLimit : Option Int := none
  offset : Option Int := none
  page : Option Int := none
  pageSize : Option Int := none
  order : List String := []
deriving Inhabited

/-- What holds for searches whose callers do not say otherwise.  A limit of zero is no limit. -/
structure SearchDefaults where
  scope : Scope := .subtree
  base : String := ""
  policy : FeaturePolicy := .reject
  countLimit : Int := 0
  timeLimit : Int := 0
deriving Repr, DecidableEq, Inhabited

/-- A query that a directory can answer. -/
structure Query where
  base : DistinguishedName
  filter : String
  scope : Scope
  attributes : List String
  countLimit : Nat
  timeLimit : Nat
deriving Repr, DecidableEq

/-- The requested features that directories do not have. -/
def SearchParameters.requestedFeatures (parameters : SearchParameters) : List Feature :=
  (if parameters.offset.isSome then [.offset] else []) ++
    (if parameters.page.isSome then [.page] else []) ++
    (if parameters.pageSize.isSome then [.pageSize] else []) ++
    (if parameters.order.isEmpty then [] else [.order])

end DirectoryQuery
