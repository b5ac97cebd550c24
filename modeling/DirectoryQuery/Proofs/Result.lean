/-
Module: DirectoryQuery.Proofs.Result
Purpose: Results of attempts that can fail, after their values or their errors were changed.
Main exports:
  map_eq_ok_iff, map_eq_error_iff, mapError_eq_ok_iff, mapError_eq_error_iff,
  exists_map_eq_ok_iff, bind_map_eq_ok_iff, bind_ne_error
-/

namespace DirectoryQuery

variable {ε δ α β γ : Type} {result : Except ε α} {make : α → β} {change : ε → δ}

theorem map_eq_ok_iff {made : β} :
    result.map make = .ok made ↔ ∃ value, result = .ok value ∧ make value = made := by
  cases result <;> simp [Except.map]

theorem map_eq_error_iff {error : ε} :
    result.map make = .error error ↔ result = .error error := by
  cases result <;> simp [Except.map]

theorem mapError_eq_ok_iff {value : α} :
    result.mapError change = .ok value ↔ result = .ok value := by
  cases result with
  | error error => constructor <;> intro same <;> cases same
  | ok found =>
      constructor <;> intro same <;> cases same
      · rfl
      · rfl

theorem mapError_eq_error_iff {failure : δ} :
    result.mapError change = .error failure ↔
      ∃ error, result = .error error ∧ change error = failure := by
  constructor
  · intro failed
    cases result with
    | error error =>
        cases failed
        exact ⟨error, rfl, rfl⟩
    | ok found => cases failed
  · intro found
    obtain ⟨error, same, changed⟩ := found
    rw [same, ← changed]
    rfl

/-- Changing a value does not make an attempt fail. -/
theorem exists_map_eq_ok_iff :
    (∃ made, result.map make = .ok made) ↔ ∃ value, result = .ok value := by
  cases result <;> simp [Except.map]

/-- Attempts made one after the other do not fail in a way in which none of them does. -/
theorem bind_ne_error {next : α → Except ε β} {error : ε} (first : result ≠ .error error)
    (others : ∀ value, next value ≠ .error error) : (result >>= next) ≠ .error error := by
  cases result with
  | error other => exact fun failed => first (congrArg _ (Except.error.inj failed))
  | ok value => exact others value

/-- Of two attempts, made one after the other for a common result, both have to succeed. -/
theorem bind_map_eq_ok_iff {first : Except ε α} {second : Except ε β} {join : α → β → γ}
    {made : γ} :
    (first.bind fun a => second.map (join a)) = .ok made ↔
      ∃ a b, first = .ok a ∧ second = .ok b ∧ made = join a b := by
  constructor
  · intro joined
    cases first with
    | error error => cases joined
    | ok a =>
        obtain ⟨b, found, same⟩ := map_eq_ok_iff.1 joined
        exact ⟨a, b, rfl, found, same.symm⟩
  · intro found
    obtain ⟨a, b, one, other, same⟩ := found
    rw [one, other, same]
    rfl

end DirectoryQuery
