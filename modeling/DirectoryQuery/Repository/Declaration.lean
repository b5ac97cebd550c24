/-
Module: DirectoryQuery.Repository.Declaration
Purpose: Kinds of repositories: the finders that they declare, and those that they inherit.
Main exports:
  camelCase, Declaration, Declaration.named, Member, Member.descriptor?, putNamed, Body,
  Body.ofAssignments, EntityChoice, RepositoryKind, RepositoryKind.declare, RepositoryKind.add,
  RepositoryKind.member?, RepositoryKind.finder?
-/
import DirectoryQuery.Finder.Parser
import DirectoryQuery.Search.Basic
import DirectoryQuery.Text.Quoted

namespace DirectoryQuery

open Text

/-! ### Names -/

/-- A character that may start a word in a name with underscores. -/
def startsSnakeWord (c : Char) : Bool := c.isLower || c.isDigit

/-- Characters with each underscore before a small letter or a digit left out and the letter
capitalised. -/
def camelCaseChars : List Char → List Char
  | [] => []
  | [c] => [c]
  | c :: d :: rest =>
    if c = '_' ∧ startsSnakeWord d = true then d.toUpper :: camelCaseChars rest
    else c :: camelCaseChars (d :: rest)

/-- A name with capital letters in the place of underscores. -/
def camelCase (name : String) : String := String.ofList (camelCaseChars name.toList)

/-! ### Declarations -/

/-- The declaration of a finder: the name that it goes by, which is empty until it has one, the
finder name to read, whether a single entry is looked for, and what its searches are asked for. -/
structure Declaration where
  name : String := ""
  descriptor : Option String := none
  single : Bool := false
  parameters : Option SearchParameters := none
deriving Inhabited

namespace Declaration

/-- A declaration under a name.  Without a finder name of its own it is read from that name. -/
def named (declaration : Declaration) (name : String) : Declaration :=
  { declaration with
    name := name
    descriptor := some (declaration.descriptor.getD (camelCase name)) }

/-- How a declaration is shown. -/
def literal (declaration : Declaration) : String :=
  "DerivedQuery(" ++ (declaration.descriptor.map quoted).getD "None" ++ ")"

end Declaration

/-- What stands under a name in the body of a kind of repositories. -/
inductive Member where
  | finder (declaration : Declaration)
  /-- Something else, which hides a finder of the same name. -/
  | other
deriving Inhabited

/-- The finder name to read for a member, if it is a finder that has one. -/
def Member.descriptor? : Member → Option String
  | .finder declaration => declaration.descriptor.filter (· ≠ "")
  | .other => none

/-- Puts a value under a name.  A name that is taken keeps its place. -/
def putNamed {α : Type} (entries : List (String × α)) (name : String) (value : α) :
    List (String × α) :=
  match entries with
  | [] => [(name, value)]
  | (known, old) :: rest =>
    if known = name then (known, value) :: rest else (known, old) :: putNamed rest name value

theorem lookup_putNamed {α : Type} (entries : List (String × α)) (name other : String)
    (value : α) :
    (putNamed entries name value).lookup other =
      if other = name then some value else entries.lookup other := by
  induction entries with
  | nil =>
    by_cases same : other = name <;> simp [putNamed, same]
  | cons entry rest ih =>
    obtain ⟨known, old⟩ := entry
    unfold putNamed
    by_cases taken : known = name
    · by_cases same : other = name
      · simp [taken, same]
      · simp [taken, same, List.lookup_cons, beq_eq_false_iff_ne.2]
    · by_cases same : other = known
      · simp [taken, same]
      · simp [taken, same, ih, List.lookup_cons, beq_eq_false_iff_ne.2]

/-- A body: members under their names, in the order of their declaration. -/
abbrev Body := List (String × Member)

/-- The body that comes of members put under names one after the other. -/
def Body.ofAssignments (assignments : List (String × Member)) : Body :=
  assignments.foldl (fun body (name, member) => putNamed body name member) []

/-! ### Kinds of repositories -/

/-- What a kind of repositories says about the entity that it is for. -/
inductive EntityChoice where
  /-- It is for the entity of the kind that it extends. -/
  | inherited
  /-- It is for no entity yet. -/
  | unset
  | of (entity : Entity)
deriving Inhabited

/-- A kind of repositories: its bodies, its own first and then those of the kinds that it extends,
and the finders that were read from them. -/
structure RepositoryKind where
  name : String
  entity : Option Entity
  bodies : List Body
  finders : List (String × Finder)
deriving Inhabited

namespace RepositoryKind

/-- Reads the finder of a member.  Members without a finder name are passed over. -/
def readMember (entity : Entity) (finders : List (String × Finder)) (name : String)
    (member : Member) : Except FinderError (List (String × Finder)) :=
  match member.descriptor? with
  | none => .ok finders
  | some descriptor => (Finder.parse entity descriptor).map (putNamed finders name)

/-- Reads the finders of members, one after the other. -/
def readMembers (entity : Entity) :
    List (String × Finder) → List (String × Member) → Except FinderError (List (String × Finder))
  | finders, [] => .ok finders
  | finders, (name, member) :: rest =>
    match readMember entity finders name member with
    | .error error => .error error
    | .ok finders => readMembers entity finders rest

/-- The entity that a kind of repositories is for. -/
def chosenEntity (base : Option RepositoryKind) : EntityChoice → Option Entity
  | .inherited => base.bind (·.entity)
  | .unset => none
  | .of entity => some entity

/-- Declares a kind of repositories that extends another.  Where it is for an entity, the finders
of all bodies are read for that entity, those of the innermost kind first; a finder that hides
another of its name takes its place, and anything else leaves it there.  What every kind has of its
own accord (`find`, `query_for`, `derived_queries`) is not among the members, and what becomes of it
where a body takes such a name is left out. -/
def declare (name : String) (base : Option RepositoryKind) (choice : EntityChoice) (body : Body) :
    Except FinderError RepositoryKind :=
  let bodies := body :: (base.map (·.bodies)).getD []
  let entity := chosenEntity base choice
  match entity with
  | none => .ok ⟨name, none, bodies, []⟩
  | some target =>
    (readMembers target [] bodies.reverse.flatten).map fun finders =>
      ⟨name, entity, bodies, finders⟩

/-- A kind of repositories with a member added to its own body.  No finder is read any more. -/
def add (kind : RepositoryKind) (name : String) (declaration : Declaration) : RepositoryKind :=
  let member := Member.finder declaration
  match kind.bodies with
  | [] => { kind with bodies := [[(name, member)]] }
  | own :: inherited => { kind with bodies := putNamed own name member :: inherited }

/-- The member under a name, from the outermost body that has one. -/
def member? (kind : RepositoryKind) (name : String) : Option Member :=
  kind.bodies.findSome? (·.lookup name)

/-- The finder that was read for a name. -/
def finder? (kind : RepositoryKind) (name : String) : Option Finder := kind.finders.lookup name

end RepositoryKind

end DirectoryQuery
