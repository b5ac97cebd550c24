/-
Module: DirectoryQuery.Repository.Assignment
Purpose: What becomes of a kind of repositories after it was declared: finders are put under names, and
  are told the names that they go by.
Main exports:
  Slot, LiveKind, LiveKind.kind, Change, LiveKind.apply, LiveKind.run
-/
import DirectoryQuery.Repository.Declaration

namespace DirectoryQuery

/-!
A declaration may stand under several names and in several bodies, and telling it the name that it goes
by changes it wherever it stands.  So declarations have numbers here, and names stand for numbers.  The
finders that were read when the kind was declared are a table of their own, which later changes do not
touch.
-/

/-- What stands under a name: a declaration, given by its number, or something else. -/
inductive Slot where
  | finder (number : Nat)
  | other
deriving Repr, DecidableEq

/-- What stands under a name while the declarations are these. -/
def Slot.member (declarations : Nat → Declaration) : Slot → Member
  | .finder number => .finder (declarations number)
  | .other => .other

/-- A kind of repositories whose declarations may change. -/
structure LiveKind where
  name : String
  entity : Option Entity
  declarations : Nat → Declaration
  bodies : List (List (String × Slot))
  finders : List (String × Finder)

/-- A change of a kind of repositories. -/
inductive Change where
  /-- A declaration is put under a name in one of the bodies, the first of which is its own. -/
  | assign (body : Nat) (name : String) (number : Nat)
  /-- A declaration is told the name that it goes by. -/
  | tell (number : Nat) (name : String)
deriving Repr, DecidableEq

namespace LiveKind

/-- The kind as it is at present. -/
def kind (live : LiveKind) : RepositoryKind where
  name := live.name
  entity := live.entity
  bodies := live.bodies.map (·.map fun (name, slot) => (name, slot.member live.declarations))
  finders := live.finders

/-- What stands under a name, in the outermost body that has it. -/
def slot? (live : LiveKind) (name : String) : Option Slot :=
  live.bodies.findSome? (·.lookup name)

/-- The kind after a change. -/
def apply (live : LiveKind) : Change → LiveKind
  | .assign body name number =>
    { live with bodies := live.bodies.modify body (putNamed · name (.finder number)) }
  | .tell number name =>
    { live with
      declarations := fun other =>
        if other = number then (live.declarations other).named name
        else live.declarations other }

/-- The kind after changes, one after the other. -/
def run (live : LiveKind) (changes : List Change) : LiveKind := changes.foldl apply live

end LiveKind

end DirectoryQuery
