/-
Module: DirectoryQuery.Proofs.Entity.AttributeName
Purpose: The characters that attribute names are made of, whichever form the names have.
Main exports:
  mem_shortName, mem_objectIdentifier, mem_attributeName
-/
import DirectoryQuery.Entity.Resolve

namespace DirectoryQuery

open Text

theorem mem_joinWith {separator c : Char} {first : List Char} {others : List (List Char)}
    (found : c ∈ joinWith separator first others) :
    c ∈ first ∨ c = separator ∨ ∃ part ∈ others, c ∈ part := by
  induction others generalizing first with
  | nil => exact .inl found
  | cons part others ih =>
      rw [joinWith, List.mem_append, List.mem_cons] at found
      rcases found with found | found | found
      · exact .inl found
      · exact .inr (.inl found)
      · rcases ih found with found | found | ⟨other, listed, found⟩
        · exact .inr (.inr ⟨part, List.mem_cons_self, found⟩)
        · exact .inr (.inl found)
        · exact .inr (.inr ⟨other, List.mem_cons_of_mem _ listed, found⟩)

theorem mem_shortName {type : List Char} (short : isShortName type = true) :
    type ≠ [] ∧ ∀ c ∈ type, isKeywordChar c = true := by
  cases type with
  | nil => cases short
  | cons first rest =>
      rw [isShortName, Bool.and_eq_true] at short
      refine ⟨List.cons_ne_nil _ _, ?_⟩
      intro c found
      rcases List.mem_cons.1 found with rfl | later
      · simp [isKeywordChar, Char.isAlphanum, short.1]
      · exact List.all_eq_true.1 short.2 c later

theorem mem_objectIdentifier {type : List Char} (identifier : isObjectIdentifier type = true) :
    type ≠ [] ∧ ∀ c ∈ type, isDecimalDigit c = true ∨ c = '.' := by
  have parts := joinWith_split '.' type
  simp only [isObjectIdentifier, Bool.and_eq_true, List.all_eq_true] at identifier
  obtain ⟨several, arcs⟩ := identifier
  constructor
  · rintro rfl
    cases several
  · intro c found
    rw [← parts] at found
    rcases mem_joinWith found with found | rfl | ⟨arc, listed, found⟩
    · exact .inl ((arcs _ List.mem_cons_self).2 c found)
    · exact .inr rfl
    · exact .inl ((arcs arc (List.mem_cons_of_mem _ listed)).2 c found)

/-- An attribute name is not empty and consists of letters, digits, hyphens, points and semicolons.
-/
theorem mem_attributeName {name : String} (valid : isAttributeName name = true) :
    name.toList ≠ [] ∧ ∀ c ∈ name.toList,
      isKeywordChar c = true ∨ isDecimalDigit c = true ∨ c = '.' ∨ c = ';' := by
  have parts := joinWith_split ';' name.toList
  simp only [isAttributeName, Bool.and_eq_true, Bool.or_eq_true, List.all_eq_true] at valid
  obtain ⟨type, options⟩ := valid
  have ofType : (split ';' name.toList).1 ≠ [] ∧ ∀ c ∈ (split ';' name.toList).1,
      isKeywordChar c = true ∨ isDecimalDigit c = true ∨ c = '.' ∨ c = ';' := by
    rcases type with short | identifier
    · obtain ⟨nonempty, each⟩ := mem_shortName short
      exact ⟨nonempty, fun c found => .inl (each c found)⟩
    · obtain ⟨nonempty, each⟩ := mem_objectIdentifier identifier
      refine ⟨nonempty, fun c found => .inr ?_⟩
      exact (each c found).imp_right .inl
  constructor
  · intro empty
    rw [empty] at ofType
    exact ofType.1 rfl
  · intro c found
    rw [← parts] at found
    rcases mem_joinWith found with found | rfl | ⟨option, listed, found⟩
    · exact ofType.2 c found
    · exact .inr (.inr (.inr rfl))
    · exact .inl ((options option listed).2 c found)

end DirectoryQuery
