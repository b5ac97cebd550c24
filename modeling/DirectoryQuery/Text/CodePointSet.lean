/-
Module: DirectoryQuery.Text.CodePointSet
Purpose: Sets of characters given by ranges of code points.
Main exports:
  CodePointSet, CodePointSet.contains
-/

namespace DirectoryQuery.Text

/-- A set of characters, as the inclusive ranges of code points that it consists of. -/
structure CodePointSet where
  ranges : List (Nat × Nat)
deriving Repr, DecidableEq

namespace CodePointSet

/-- Membership: the code point of the character lies in one of the ranges. -/
def contains (set : CodePointSet) (c : Char) : Bool :=
  set.ranges.any fun (first, last) => first ≤ c.toNat && c.toNat ≤ last

theorem contains_iff {set : CodePointSet} {c : Char} :
    set.contains c = true ↔ ∃ range ∈ set.ranges, range.1 ≤ c.toNat ∧ c.toNat ≤ range.2 := by
  simp [contains]

end CodePointSet

end DirectoryQuery.Text
