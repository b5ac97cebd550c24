/-
Module: DirectoryQuery.Proofs.Association
Purpose: Lists of values under keys.
Main exports:
  lookup_isSome_iff_mem_keys, lookup_eq_some_iff_mem, lookup_eq_of_perm
-/
import Mathlib.Data.List.Nodup

namespace DirectoryQuery

variable {κ υ : Type} [BEq κ] [LawfulBEq κ] {pairs others : List (κ × υ)} {key : κ} {value : υ}

theorem lookup_isSome_iff_mem_keys :
    (pairs.lookup key).isSome = true ↔ key ∈ pairs.map (·.1) := by
  rw [List.lookup_isSome_iff, List.mem_map]
  simp only [beq_iff_eq, eq_comm (a := key)]

theorem lookup_eq_none_iff_notMem_keys : pairs.lookup key = none ↔ key ∉ pairs.map (·.1) := by
  rw [← lookup_isSome_iff_mem_keys, Option.isSome_iff_ne_none, not_not]

/-- Under distinct keys everything is found. -/
theorem lookup_eq_some_iff_mem (keyed : (pairs.map (·.1)).Nodup) :
    pairs.lookup key = some value ↔ (key, value) ∈ pairs := by
  constructor
  · intro found
    obtain ⟨before, after, split, -⟩ := List.lookup_eq_some_iff.1 found
    simp [split]
  · intro listed
    obtain ⟨before, after, rfl⟩ := List.append_of_mem listed
    refine List.lookup_eq_some_iff.2 ⟨before, after, rfl, ?_⟩
    intro pair found
    rw [List.map_append, List.map_cons] at keyed
    have apart := List.disjoint_of_nodup_append keyed (List.mem_map_of_mem found)
    apply bne_iff_ne.2
    rintro rfl
    exact apart List.mem_cons_self

/-- Under distinct keys the order does not matter. -/
theorem lookup_eq_of_perm (same : pairs.Perm others) (keyed : (pairs.map (·.1)).Nodup) :
    pairs.lookup key = others.lookup key := by
  have keyed' : (others.map (·.1)).Nodup := (same.map _).nodup_iff.1 keyed
  apply Option.ext
  intro value
  rw [lookup_eq_some_iff_mem keyed, lookup_eq_some_iff_mem keyed', same.mem_iff]

end DirectoryQuery
