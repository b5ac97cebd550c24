/-
Module: DirectoryQuery.Filter.Request
Purpose: Asking for a filter by a call.  The keywords of the call are names of properties, but a name
  that the operation has for an argument of its own cannot be told from that argument.
Main exports:
  Callable, NameClash, NameClash.message, Callable.clash?, RequestError,
  RequestError.report?, Entity.filterCall, Entity.requestFilter
-/
import DirectoryQuery.Filter.Compilation

namespace DirectoryQuery

/-- An operation that takes keywords: its title and the names of those of its own arguments that are
given by position. -/
structure Callable where
  title : String
  ownNames : List String
deriving Repr, DecidableEq

/-- A keyword that names an argument which an operation was given already. -/
structure NameClash where
  title : String
  name : String
deriving Repr, DecidableEq

/-- The wording of the complaint. -/
def NameClash.message (clash : NameClash) : String :=
  clash.title ++ "() got multiple values for argument '" ++ clash.name ++ "'"

/-- The first keyword that an operation cannot tell from an argument of its own. -/
def Callable.clash? (operation : Callable) (keywords : List (String × Value)) :
    Option NameClash :=
  (keywords.find? fun keyword => decide (keyword.1 ∈ operation.ownNames)).map fun keyword =>
    ⟨operation.title, keyword.1⟩

theorem Callable.clash?_eq_none {operation : Callable} {keywords : List (String × Value)} :
    operation.clash? keywords = none ↔
      ∀ keyword ∈ keywords, keyword.1 ∉ operation.ownNames := by
  simp [clash?]

/-- Why a call for a filter comes to nothing. -/
inductive RequestError where
  | clash (clash : NameClash)
  | compilation (error : CompilationError)
deriving Repr, DecidableEq

/-- What a caller is told.  A clash of names is found before there is anything to complain about. -/
def RequestError.report? : RequestError → Option Report
  | .clash _ => none
  | .compilation error => error.report?

namespace Entity

/-- The operation that makes the filter. -/
def filterCall : Callable := ⟨"FilterCompiler.compile", ["self", "tree"]⟩

/-- The filter that a call asks for.  A predicate may be of any depth here. -/
def requestFilter (entity : Entity) (predicate : Option Predicate) (arguments : List Value)
    (keywords : List (String × Value)) : Except RequestError Filter :=
  match filterCall.clash? keywords with
  | some clash => .error (.clash clash)
  | none => (entity.filterFor predicate arguments keywords).mapError .compilation

end Entity

end DirectoryQuery
