/-
Module: DirectoryQuery.Repository.Hierarchy
Purpose: Kinds of repositories that are declared one after the other, each as an extension of a kind
  declared before or of none.
Main exports:
  KindStatement, DeclarationError, Kinds, Kinds.base?, Kinds.kindOf, Kinds.declare,
  Kinds.declareAll
-/
import DirectoryQuery.Repository.Declaration

namespace DirectoryQuery

/-- What is said to declare a kind of repositories: its name, the name of the kind that it extends if
there is one, what it says about its entity, and what is put into its body, in this order. -/
structure KindStatement where
  name : String
  base : Option String := none
  choice : EntityChoice := .inherited
  assignments : List (String × Member) := []
deriving Inhabited

/-- Why a kind of repositories is not declared. -/
inductive DeclarationError where
  | unknownBase (name : String)
  | unreadable (error : FinderError)

/-- The kinds that were declared, the last one first.  A name stands for the last kind that it was
given to. -/
abbrev Kinds := List (String × RepositoryKind)

namespace Kinds

/-- The kind that a statement extends. -/
def base? (kinds : Kinds) (statement : KindStatement) :
    Except DeclarationError (Option RepositoryKind) :=
  match statement.base with
  | none => .ok none
  | some base =>
    match kinds.lookup base with
    | none => .error (.unknownBase base)
    | some kind => .ok (some kind)

/-- The kind that a statement declares. -/
def kindOf (kinds : Kinds) (statement : KindStatement) : Except DeclarationError RepositoryKind :=
  match kinds.base? statement with
  | .error error => .error error
  | .ok base =>
    (RepositoryKind.declare statement.name base statement.choice
      (Body.ofAssignments statement.assignments)).mapError .unreadable

/-- The kinds after a statement.  A statement that fails declares nothing. -/
def declare (kinds : Kinds) (statement : KindStatement) : Kinds :=
  match kinds.kindOf statement with
  | .error _ => kinds
  | .ok kind => (statement.name, kind) :: kinds

/-- The kinds after statements, one after the other. -/
def declareAll (kinds : Kinds) (statements : List KindStatement) : Kinds :=
  statements.foldl declare kinds

end Kinds

end DirectoryQuery
