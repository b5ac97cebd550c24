/-
Module: DirectoryQuery.Value.Equality
Purpose: Values can be compared for equality.
Main exports:
  Value.same, Value.same_iff_eq
-/
import DirectoryQuery.Value.Basic

namespace DirectoryQuery.Value

mutual

/-- Equality of values, part by part. -/
def same : Value → Value → Bool
  | .null, .null => true
  | .bool a, .bool b => a == b
  | .int a, .int b => a == b
  | .float a, .float b => decide (a = b)
  | .text a, .text b => a == b
  | .list a, .list b => sameItems a b
  | .tuple a, .tuple b => sameItems a b
  | .record a, .record b => sameFields a b
  | .bytes a, .bytes b => a == b
  | .byteArray a, .byteArray b => a == b
  | .decimal a, .decimal b => decide (a = b)
  | .name a, .name b => decide (a = b)
  | .moment a, .moment b => decide (a = b)
  | .date a, .date b => decide (a = b)
  | .member appearance kind a, .member appearance' kind' b =>
    decide (appearance = appearance') && decide (kind = kind') && same a b
  | .parameter a, .parameter b => decide (a = b)
  | .foreign a, .foreign b => decide (a = b)
  | _, _ => false

/-- Equality of lists of values. -/
def sameItems : List Value → List Value → Bool
  | [], [] => true
  | a :: as, b :: bs => same a b && sameItems as bs
  | _, _ => false

/-- Equality of the fields of records, in their order. -/
def sameFields : List (String × Value) → List (String × Value) → Bool
  | [], [] => true
  | (key, a) :: as, (other, b) :: bs => key == other && same a b && sameFields as bs
  | _, _ => false

end

mutual

theorem same_iff_eq (a b : Value) : same a b = true ↔ a = b := by
  cases a <;> cases b <;>
    simp [same, sameItems_iff_eq, sameFields_iff_eq, same_iff_eq, and_assoc]

theorem sameItems_iff_eq (a b : List Value) : sameItems a b = true ↔ a = b := by
  cases a <;> cases b <;> simp [sameItems, same_iff_eq, sameItems_iff_eq]

theorem sameFields_iff_eq (a b : List (String × Value)) : sameFields a b = true ↔ a = b := by
  rcases a with _ | ⟨⟨key, a⟩, as⟩ <;> rcases b with _ | ⟨⟨other, b⟩, bs⟩ <;>
    simp [sameFields, same_iff_eq, sameFields_iff_eq]

end

/-- Values are equal just if they are the same part by part. -/
instance : DecidableEq Value := fun a b =>
  decidable_of_iff (same a b = true) (same_iff_eq a b)

end DirectoryQuery.Value
