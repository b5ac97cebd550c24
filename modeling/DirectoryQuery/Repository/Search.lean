/-
Module: DirectoryQuery.Repository.Search
Purpose: Searching for the entries of an entity through a repository.
Main exports:
  CallError, Outcome, Directory, Repository, Repository.open?, Repository.queryFor, Repository.find,
  Repository.findOne, Repository.call
-/
import DirectoryQuery.Expression.Predicate
import DirectoryQuery.Filter.Request
import DirectoryQuery.Repository.Declaration
import DirectoryQuery.Search.Assembly

namespace DirectoryQuery

/-- Why a call comes to nothing. -/
inductive CallError where
  | expression (error : ExpressionError)
  | request (error : RequestError)
  | assembly (error : AssemblyError)
  | severalEntries (count : Nat)
  /-- The finder was not there when the finders of its kind of repositories were read. -/
  | neverRead (literal kind : String)
  | noMember (kind name : String)
  | notAFinder
  /-- The directory failed to answer, for a reason of its own. -/
  | directory (failure : String)
deriving Repr, DecidableEq

/-- The wording of the complaint about a finder that was never read. -/
def neverReadMessage (literal kind : String) : String :=
  literal ++ " was not declared in the body of " ++ kind ++ " and was never parsed"

/-- What comes of a call: its result, and the queries and warnings on the way to it. -/
structure Outcome (α : Type) where
  searched : List Query := []
  warnings : List String := []
  result : Except CallError α

namespace Outcome

/-- An outcome without queries or warnings. -/
def of {α : Type} (result : Except CallError α) : Outcome α := { result := result }

/-- Goes on from a result. -/
def andThen {α β : Type} (outcome : Outcome α) (next : α → Outcome β) : Outcome β :=
  match outcome.result with
  | .error error =>
    { searched := outcome.searched, warnings := outcome.warnings, result := .error error }
  | .ok value =>
    let later := next value
    { searched := outcome.searched ++ later.searched
      warnings := outcome.warnings ++ later.warnings
      result := later.result }

/-- Turns a result into another one. -/
def map {α β : Type} (outcome : Outcome α) (make : α → β) : Outcome β :=
  outcome.andThen fun value => .of (.ok (make value))

end Outcome

/-- A directory answers queries with entries, unless it fails. -/
abbrev Directory (α : Type) := Query → Except String (List α)

/-- A repository: a kind of repositories that is for an entity, and defaults for its searches. -/
structure Repository where
  kind : RepositoryKind
  entity : Entity
  defaults : SearchDefaults

/-- The wording of the complaint about a kind of repositories without an entity. -/
def RepositoryKind.noEntityMessage (kind : RepositoryKind) : String :=
  kind.name ++ " does not declare metadata"

namespace Repository

/-- A repository of a kind, if the kind is for an entity. -/
def open? (kind : RepositoryKind) (defaults : SearchDefaults) : Option Repository :=
  kind.entity.map fun entity => ⟨kind, entity, defaults⟩

/-- The operation that makes a query.  It is handed the wishes of its caller under the keyword
`params`, so that this keyword is never among those for the placeholders. -/
def queryCall : Callable := ⟨"DirectoryRepository.query_for", ["self", "tree"]⟩

/-- The operation that runs a finder.  It takes the keyword `params` in the same way. -/
def finderCall : Callable := ⟨"_BoundQuery.__call__", ["self"]⟩

/-- The query for the entries for which a predicate holds. -/
def queryFor (repository : Repository) (predicate : Option Predicate) (arguments : List Value)
    (keywords : List (String × Value)) (parameters : Option SearchParameters) : Outcome Query :=
  match queryCall.clash? keywords with
  | some clash => .of (.error (.request (.clash clash)))
  | none =>
    match repository.entity.requestFilter predicate arguments keywords with
    | .error error => .of (.error (.request error))
    | .ok filter =>
      let wishes := parameters.getD {}
      { warnings := assemblyWarnings repository.entity wishes repository.defaults
        result :=
          (Query.assemble repository.entity filter.text wishes repository.defaults).mapError
            .assembly }

/-- The entries that a directory has for a query. -/
def search {α : Type} (directory : Directory α) (query : Query) : Outcome (List α) :=
  { searched := [query], result := (directory query).mapError .directory }

/-- The only entry, if there is one. -/
def single {α : Type} (entries : List α) : Outcome (Option α) :=
  match entries with
  | [] => .of (.ok none)
  | [entry] => .of (.ok (some entry))
  | entries => .of (.error (.severalEntries entries.length))

/-- The entries for which an expression holds.  Without an expression all entries are found. -/
def find {α : Type} (repository : Repository) (directory : Directory α)
    (expression : Option Expression) (parameters : Option SearchParameters) : Outcome (List α) :=
  match expression with
  | none => (repository.queryFor none [] [] parameters).andThen (search directory)
  | some expression =>
    match expression.toPredicate with
    | .error error => .of (.error (.expression error))
    | .ok predicate =>
      (repository.queryFor (some predicate) [] [] parameters).andThen (search directory)

/-- The only entry for which an expression holds. -/
def findOne {α : Type} (repository : Repository) (directory : Directory α)
    (expression : Option Expression) (parameters : Option SearchParameters) : Outcome (Option α) :=
  (repository.find directory expression parameters).andThen single

/-- What a finder finds: all entries, or the only one. -/
inductive Found (α : Type) where
  | entries (entries : List α)
  | entry (entry : Option α)

/-- Calls a declared finder.  The finder is the one that was read under the name of the declaration;
the wishes of the caller take the place of those of the declaration. -/
def callDeclared {α : Type} (repository : Repository) (directory : Directory α)
    (declaration : Declaration) (arguments : List Value) (keywords : List (String × Value))
    (parameters : Option SearchParameters) : Outcome (Found α) :=
  match repository.kind.finder? declaration.name with
  | none => .of (.error (.neverRead declaration.literal repository.kind.name))
  | some finder =>
    let wishes := parameters.or declaration.parameters
    let found :=
      (repository.queryFor (some finder.predicate) arguments keywords wishes).andThen
        (search directory)
    if declaration.single then (found.andThen single).map .entry else found.map .entries

/-- Calls the finder under a name. -/
def call {α : Type} (repository : Repository) (directory : Directory α) (name : String)
    (arguments : List Value) (keywords : List (String × Value))
    (parameters : Option SearchParameters) : Outcome (Found α) :=
  match repository.kind.member? name with
  | none => .of (.error (.noMember repository.kind.name name))
  | some .other => .of (.error .notAFinder)
  | some (.finder declaration) =>
    match finderCall.clash? keywords with
    | some clash => .of (.error (.request (.clash clash)))
    | none => repository.callDeclared directory declaration arguments keywords parameters

/-- How a finder of a repository is shown. -/
def boundLiteral (repository : Repository) (declaration : Declaration) : String :=
  "<bound " ++ declaration.literal ++ " of " ++ repository.kind.name ++ ">"

end Repository

end DirectoryQuery
